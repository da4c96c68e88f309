import AccessGovernance.Error
import AccessGovernance.Number.Digits
import AccessGovernance.Text.Blank
import AccessGovernance.Text.Split

/-! # Schedules

When a sweep is due is written as six fields: seconds, minutes, hours, days of the month, months and
days of the week. A field is all values, or a list of single values, ranges and values at equal
distances in a range. Names of months and of days of the week may stand for their numbers. There are
also nicknames for frequent schedules. Whether a text is a schedule is left to a library; the one
here reads such fields.
-/

namespace AccessGovernance

namespace Schedule

structure Field where
  min : Nat
  max : Nat

def second : Field := ⟨0, 59⟩

def minute : Field := ⟨0, 59⟩

def hour : Field := ⟨0, 23⟩

def dayOfMonth : Field := ⟨1, 31⟩

def month : Field := ⟨1, 12⟩

/-- Sunday is both the first and the last day. -/
def dayOfWeek : Field := ⟨0, 7⟩

def fields : List Field :=
  [second, minute, hour, dayOfMonth, month, dayOfWeek]

/-- The names and their numbers. Sunday is the last day where it ends a range. -/
def names : List (String × String) :=
  [("-sun", "-7"), ("sun", "0"), ("mon", "1"), ("tue", "2"), ("wed", "3"), ("thu", "4"),
    ("fri", "5"), ("sat", "6"), ("jan", "1"), ("feb", "2"), ("mar", "3"), ("apr", "4"),
    ("may", "5"), ("jun", "6"), ("jul", "7"), ("aug", "8"), ("sep", "9"), ("oct", "10"),
    ("nov", "11"), ("dec", "12")]

/-- Puts numbers in the place of names. A name need not stand alone, nor in a field of its own
kind. -/
def resolveNames : List Char → List Char
  | [] => []
  | c :: rest =>
      match names.find? fun n => n.1.toList.isPrefixOf (c :: rest) with
      | some (name, number) => number.toList ++ resolveNames (rest.drop (name.length - 1))
      | none => c :: resolveNames rest
termination_by s => s.length
decreasing_by all_goals grind

def Field.value? (f : Field) (s : List Char) : Option Nat :=
  (natOfDigits? 10 s).filter fun n => f.min ≤ n && n ≤ f.max

def Field.between? (f : Field) (s : List Char) : Option (Nat × Nat) := do
  let (low, high) ← Text.cutFirst? '-' s
  let low ← f.value? low
  let high ← f.value? high
  if low ≤ high then some (low, high) else none

def isAll (s : List Char) : Bool :=
  s = ['*'] || s = ['?']

/-- The bounds of a range through which values may be counted. -/
def Field.range? (f : Field) (s : List Char) : Option (Nat × Nat) :=
  if isAll s then some (f.min, f.max) else f.between? s

/-- The largest number that counting may arrive at. -/
def countLimit : Nat :=
  255

/-- Whether one can count from the start of a range in steps of `n` until its end is passed. -/
def canCount (range : Nat × Nat) (n : Nat) : Bool :=
  0 < n && range.1 + ((range.2 - range.1) / n + 1) * n ≤ countLimit

/-- Whether a text is a value, a range, or a range with the distance between the values that are
taken from it. -/
def Field.isItem (f : Field) (s : List Char) : Bool :=
  match Text.cutFirst? '/' s with
  | some (range, step) => (f.range? range).any fun r => (natOfDigits? 10 step).any (canCount r)
  | none => (f.value? s).isSome || (f.between? s).isSome

def Field.accepts (f : Field) (s : List Char) : Bool :=
  isAll s || (Text.fields ',' s).all f.isItem

def nicknames : List String :=
  ["@yearly", "@annually", "@monthly", "@weekly", "@daily", "@hourly"]

def words (s : List Char) : List (List Char) :=
  (s.splitBy fun c d => Text.isBlank c = Text.isBlank d).filter fun w => !w.all Text.isBlank

def isValid (s : String) : Bool :=
  match words (s.toList.map Char.toLower) with
  | [word] => nicknames.any fun n => n.toList = word
  | parts =>
      parts.length = fields.length &&
        (fields.zip parts).all fun p => p.1.accepts (resolveNames p.2)

end Schedule

/-- A library that reads schedules. -/
structure ScheduleLibrary where
  /-- Why a text is no schedule, if it is none. -/
  error? : String → Option String

/-- Reads six fields and nicknames. -/
def ScheduleLibrary.sixFields : ScheduleLibrary where
  error? s := if Schedule.isValid s then none else some "ParseSchedule"

/-- Accepts the schedule of sweeps, if a library can read it. -/
def acceptSchedule (lib : ScheduleLibrary) (s : String) : Except AccessError Unit :=
  match lib.error? s with
  | none => .ok ()
  | some cause => .error (.scheduler ("Failed to create reconciliation job: " ++ cause))

end AccessGovernance
