import AccessGovernance.Number.Digits
import AccessGovernance.Policy.Error
import AccessGovernance.Text.Blank
import AccessGovernance.Text.Split
import AccessGovernance.Text.UpperCase

/-! # Permissions

A set of permissions is a word of 32 bits. Six bits have names; the others are kept and take part
in decisions like one more permission.
-/

namespace AccessGovernance

structure Permissions where
  bits : BitVec 32
deriving DecidableEq

namespace Permissions

def empty : Permissions := ⟨0⟩

/-- See the policy and whether it is possible to join. -/
def view : Permissions := ⟨0x01⟩

/-- Join a just-in-time group, subject to constraints. -/
def join : Permissions := ⟨0x02⟩

/-- Approve the requests of other users to join. -/
def approveOthers : Permissions := ⟨0x04⟩

/-- Join without the approval of somebody else. -/
def approveSelf : Permissions := ⟨0x08⟩

/-- Retrieve the policy document. -/
def exportPolicy : Permissions := ⟨0x10⟩

/-- Bring provisioned groups in line with the policy. -/
def reconcile : Permissions := ⟨0x20⟩

def named : List (String × Permissions) :=
  [("VIEW", view), ("JOIN", join), ("APPROVE_OTHERS", approveOthers),
   ("APPROVE_SELF", approveSelf), ("EXPORT", exportPolicy), ("RECONCILE", reconcile)]

instance : Union Permissions :=
  ⟨fun p q => ⟨p.bits ||| q.bits⟩⟩

/-- Whether all of `q` is in `p`. -/
def contains (p q : Permissions) : Bool :=
  p.bits &&& q.bits = q.bits

def allNamed : Permissions :=
  named.foldl (fun p n => p ∪ n.2) empty

def unnamed (p : Permissions) : Permissions :=
  ⟨p.bits &&& ~~~allNamed.bits⟩

def namedIn (p : Permissions) : List (String × Permissions) :=
  named.filter fun n => p.contains n.2

/-- The permissions of the set one by one: each that has a name, then those without as one. -/
def parts (p : Permissions) : List Permissions :=
  p.namedIn.map Prod.snd ++ if p.unnamed = empty then [] else [p.unnamed]

def names (p : Permissions) : List String :=
  p.namedIn.map Prod.fst

/-- The names separated by commas; bits without a name are not shown. -/
def text (p : Permissions) : String :=
  ", ".intercalate p.names

def ofName? (name : List Char) : Option Permissions :=
  (named.find? fun n => n.1.toList = name).map Prod.snd

/-! ## Lists as policies write them -/

/-- The parts between commas, trimmed, without the blank ones. -/
def listedNames (s : List Char) : List (List Char) :=
  ((Text.fields ',' s).map Text.trim).filter fun part => part ≠ []

def ofListed? (part : List Char) : Option Permissions :=
  (Text.asciiUpper? part).bind ofName?

def unionListed : List (List Char) → Permissions → Except PolicyError Permissions
  | [], p => .ok p
  | part :: rest, p =>
      match ofListed? part with
      | some q => unionListed rest (p ∪ q)
      | none => .error (.invalidPermission (String.ofList part))

/-- Reads a list such as `view, join`. The first part that names no permission is the error. -/
def ofList (s : String) : Except PolicyError Permissions :=
  unionListed (listedNames s.toList) empty

/-! ## The stored form -/

def unnamedText (p : Permissions) : List String :=
  if p.unnamed = empty then []
  else [String.ofList ('0' :: 'x' :: Nat.toDigits 16 p.unnamed.bits.toNat)]

/-- The names and then the number of the other bits, divided by bars. -/
def serialized (p : Permissions) : String :=
  " | ".intercalate (p.names ++ p.unnamedText)

def ofStoredPart? : List Char → Option Permissions
  | '0' :: 'x' :: digits =>
      ((natOfText? 16 digits).filter (· < 0x100000000)).map fun n => ⟨BitVec.ofNat 32 n⟩
  | name => ofName? name

/-- Reads the stored form. A blank text is the empty set, a blank part is not allowed. -/
def ofSerialized? (s : String) : Option Permissions :=
  if Text.trim s.toList = [] then some empty
  else
    ((Text.fields '|' s.toList).mapM fun part => ofStoredPart? (Text.trim part)).map fun ps =>
      ps.foldl (· ∪ ·) empty

end Permissions

end AccessGovernance
