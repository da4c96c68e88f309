import AccessGovernance.Json.Value
import AccessGovernance.Number.Decimal
import AccessGovernance.Number.Shortest
import AccessGovernance.Text.LowerCase

/-! # Values of settings

Settings come from several sources as tables of loosely typed values. Tables of later sources are
merged into those of earlier ones key by key, other values take the place of what was there. Keys
ignore case. A value is converted to the type that its setting has.
-/

namespace AccessGovernance

inductive SettingValue
  | null
  | bool (b : Bool)
  | integer (n : Int)
  | double (x : ExtendedBinary64)
  | string (s : String)
  | list (items : List SettingValue)
  | table (entries : List (String × SettingValue))

namespace SettingValue

def canonicalKey (key : String) : String :=
  String.ofList (Text.lower key.toList)

/-- Sets the value of a key in place, or adds it at the end. -/
def putEntry (key : String) (value : SettingValue) :
    List (String × SettingValue) → List (String × SettingValue)
  | [] => [(key, value)]
  | e :: rest => if e.1 = key then (key, value) :: rest else e :: putEntry key value rest

/-- The entries of a table; every other value has none. -/
def entries : SettingValue → List (String × SettingValue)
  | table es => es
  | _ => []

def get? (key : String) (v : SettingValue) : Option SettingValue :=
  v.entries.lookup key

/-- Sets the value of a key; what is no table becomes one. -/
def put (v : SettingValue) (key : String) (value : SettingValue) : SettingValue :=
  table (putEntry key value v.entries)

mutual

/-- What becomes of an existing value, if there is one, when another is set over it. -/
def mergeOver (existing : Option SettingValue) : SettingValue → SettingValue
  | table es => mergeEntries (existing.getD (table [])) es
  | v => v
termination_by structural v => v

def mergeEntries (target : SettingValue) : List (String × SettingValue) → SettingValue
  | [] => target
  | (key, v) :: rest =>
      let key := canonicalKey key
      mergeEntries (target.put key (mergeOver (target.get? key) v)) rest
termination_by structural es => es

end

def items : SettingValue → List SettingValue
  | list vs => vs
  | _ => []

/-- The place in a list of that length which a position means. Negative positions count from the
end. -/
def place? (length : Nat) (position : Int) : Option Nat :=
  if 0 ≤ position then some position.toNat
  else if -position ≤ length then some (length - position.natAbs)
  else none

/-- Sets the item at a position; what is no list becomes one, and null fills the places before. -/
def putItem (v : SettingValue) (position : Int) (value : SettingValue) : SettingValue :=
  match place? v.items.length position with
  | some i => list ((v.items ++ List.replicate (i + 1 - v.items.length) null).set i value)
  | none => list v.items

def item? (v : SettingValue) (position : Int) : Option SettingValue :=
  (place? v.items.length position).bind fun i => v.items[i]?

inductive Step
  | key (name : String)
  | position (n : Int)

/-- Sets a value at the end of a way. What is missing on the way is made. A table is merged into the
one that a key leads to, but takes the place of an item of a list. -/
def setAt (value : SettingValue) : List Step → Option SettingValue → SettingValue
  | [], existing => mergeOver existing value
  | [.position n], existing => (existing.getD null).putItem n value
  | .key name :: rest, existing =>
      let target := existing.getD null
      let key := canonicalKey name
      target.put key (setAt value rest (target.get? key))
  | .position n :: rest, existing =>
      let target := existing.getD null
      target.putItem n (setAt value rest (target.item? n))

/-! ## Sources -/

mutual

/-- A value from JSON. Integers that do not fit in 64 bits with a sign are doubles. -/
def ofJson : Json → SettingValue
  | .null => null
  | .bool b => bool b
  | .number (.integer n) => if fitsSigned64 n then integer n else double (.finite (.ofInt n))
  | .number (.double x) => double (.finite x)
  | .string s => string s
  | .array items => list (ofJsonItems items)
  | .object fields => table (ofJsonFields fields)
termination_by structural a => a

def ofJsonItems : List Json → List SettingValue
  | [] => []
  | a :: rest => ofJson a :: ofJsonItems rest
termination_by structural a => a

def ofJsonFields : List (String × Json) → List (String × SettingValue)
  | [] => []
  | (key, a) :: rest => (key, ofJson a) :: ofJsonFields rest
termination_by structural a => a

end

/-- A value from a text without a type: a boolean in any case, else an integer of 64 bits, else a
double, else the text itself. -/
def ofUntyped (s : String) : SettingValue :=
  let word := String.ofList (Text.lower s.toList)
  if word = "true" then bool true
  else if word = "false" then bool false
  else
    match (intOfText? s.toList).filter fitsSigned64, ExtendedBinary64.ofText? s.toList with
    | some n, _ => integer n
    | none, some x => double x
    | none, none => string s

/-! ## Conversions -/

/-- Doubles as texts have neither an exponent nor a fraction that is zero. Where there is a choice,
their last digit is the greater one. -/
def doubleLayout : DecimalLayout :=
  ⟨.awayFromZero, fun _ => true, []⟩

def doubleText : ExtendedBinary64 → String
  | .finite x => String.ofList (doubleLayout.text x)
  | .infinite negative => if negative then "-inf" else "inf"
  | .notANumber => "NaN"

def toText? : SettingValue → Option String
  | string s => some s
  | bool b => some (if b then "true" else "false")
  | integer n => some (String.ofList (decimalText n))
  | double x => some (doubleText x)
  | null | list _ | table _ => none

/-- A double as an integer of 64 bits without a sign: the nearest one, a half away from zero, and
zero for what is no number. -/
def roundToUnsigned64 : ExtendedBinary64 → Nat
  | .finite x => min x.roundToNat 0xFFFFFFFFFFFFFFFF
  | .infinite negative => if negative then 0 else 0xFFFFFFFFFFFFFFFF
  | .notANumber => 0

/-- A text as a count: a word for yes is one, a word for no is zero. -/
def countOfText? (s : String) : Option Nat :=
  let word := String.ofList (Text.lower s.toList)
  if word ∈ ["true", "on", "yes"] then some 1
  else if word ∈ ["false", "off", "no"] then some 0
  else (natOfText? 10 s.toList).filter fun n => n < 0x10000000000000000

def toCount? : SettingValue → Option Nat
  | integer n => if 0 ≤ n then some n.toNat else none
  | bool b => some (if b then 1 else 0)
  | double x => some (roundToUnsigned64 x)
  | string s => countOfText? s
  | null | list _ | table _ => none

end SettingValue

end AccessGovernance
