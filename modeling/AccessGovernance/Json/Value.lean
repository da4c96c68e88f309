import AccessGovernance.Number.Binary64

/-! # JSON values

A number is an integer of at most 64 bits or a double. The fields of an object are held in
ascending order of their keys.
-/

namespace AccessGovernance

inductive Number
  | integer (n : Int)
  | double (x : Binary64)
deriving DecidableEq

namespace Number

def toBinary64 : Number → Binary64
  | integer n => .ofInt n
  | double x => x

/-- Whether two numbers are the same value: integers are never the same as doubles, and the two
zeros among the doubles are. -/
def same : Number → Number → Bool
  | integer m, integer n => m = n
  | double x, double y => x.order y = .eq
  | _, _ => false

end Number

inductive Json
  | null
  | bool (b : Bool)
  | number (n : Number)
  | string (s : String)
  | array (items : List Json)
  | object (fields : List (String × Json))
deriving Inhabited

namespace Json

def integer (n : Int) : Json :=
  number (.integer n)

/-! ## Fields -/

def putField (key : String) (value : Json) : List (String × Json) → List (String × Json)
  | [] => [(key, value)]
  | f :: rest =>
      match compare key f.1 with
      | .lt => (key, value) :: f :: rest
      | .eq => (key, value) :: rest
      | .gt => f :: putField key value rest

theorem lookup_cons_eq_ite {α : Type} (f : String × α) (rest : List (String × α)) (k : String) :
    (f :: rest).lookup k = if k = f.1 then some f.2 else rest.lookup k := by
  rw [List.lookup_cons]
  by_cases hk : k = f.1
  · rw [beq_iff_eq.mpr hk, if_pos hk]
  · rw [beq_false_of_ne hk, if_neg hk]

theorem lookup_putField (key k : String) (value : Json) (fields : List (String × Json)) :
    (putField key value fields).lookup k = if k = key then some value else fields.lookup k := by
  induction fields with
  | nil => exact lookup_cons_eq_ite (key, value) [] k
  | cons f rest ih =>
    rw [putField]
    split
    · exact lookup_cons_eq_ite (key, value) (f :: rest) k
    · rename_i heq
      obtain rfl := Std.LawfulEqCmp.eq_of_compare heq
      rw [lookup_cons_eq_ite, lookup_cons_eq_ite]
      split <;> rfl
    · rename_i hgt
      have hself : compare f.1 f.1 = .eq := Std.ReflCmp.compare_self
      have hne : f.1 ≠ key := by
        rintro rfl
        cases hself.symm.trans hgt
      rw [lookup_cons_eq_ite, lookup_cons_eq_ite, ih]
      by_cases hk : k = f.1
      · rw [if_pos hk, if_pos hk, if_neg (hk ▸ hne)]
      · rw [if_neg hk, if_neg hk]

/-- The object of the given fields; the last of several values of one key counts. -/
def ofFields (fields : List (String × Json)) : Json :=
  object (fields.foldl (fun fs f => putField f.1 f.2 fs) [])

/-- The value of a key; nothing, if the value is no object or has no such key. -/
def get? (key : String) : Json → Option Json
  | object fields => fields.lookup key
  | _ => none

/-! ## Views -/

def bool? : Json → Option Bool
  | bool b => some b
  | _ => none

def string? : Json → Option String
  | string s => some s
  | _ => none

def number? : Json → Option Number
  | number n => some n
  | _ => none

/-- The value as an integer; doubles are none, whole or not. -/
def integer? : Json → Option Int
  | number (.integer n) => some n
  | _ => none

/-! ## Equality -/

mutual

def same : Json → Json → Bool
  | null, null => true
  | bool a, bool b => a = b
  | number a, number b => a.same b
  | string a, string b => a = b
  | array a, array b => sameItems a b
  | object a, object b => sameFields a b
  | _, _ => false
termination_by structural a => a

def sameItems : List Json → List Json → Bool
  | [], [] => true
  | a :: as, b :: bs => same a b && sameItems as bs
  | _, _ => false
termination_by structural a => a

def sameFields : List (String × Json) → List (String × Json) → Bool
  | [], [] => true
  | (k, a) :: as, (l, b) :: bs => k = l && same a b && sameFields as bs
  | _, _ => false
termination_by structural a => a

end

end Json

end AccessGovernance
