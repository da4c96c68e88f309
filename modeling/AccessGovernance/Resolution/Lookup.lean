import AccessGovernance.Error
import AccessGovernance.Identity.Membership

/-! # Looking memberships up

Each membership is looked up under its identifier by a task of its own. The tasks run side by side:
they ask the directory in any order, and what they find is joined in any order. The first failure
that is joined ends the whole; what is not joined by then is dropped, and tasks that have not asked
yet never do.
-/

namespace AccessGovernance

inductive LookupOutcome
  | found (membership : Membership)
  | failed (cause : AccessError)
  /-- The look-up itself broke off. -/
  | died (reason : String)

namespace LookupOutcome

/-- The error that makes all look-ups fail. That a membership is gone is none. -/
def failure? : LookupOutcome → Option AccessError
  | found _ => none
  | failed cause => if cause.isNotFound then none else some cause
  | died reason => some (.backend ("membership lookup task failed: " ++ reason))

end LookupOutcome

structure Completion where
  membership : ListedMembership
  outcome : LookupOutcome

def Completion.group (c : Completion) : DirectoryGroup :=
  c.membership.group

/-- The directory that knows the groups of users, as a backend with a state `σ`. -/
structure GroupsClient (σ : Type) where
  memberships : User → Backend σ (List ListedMembership)
  membership : String → σ → LookupOutcome × σ

/-- The look-ups of a resolution: those that have not asked the directory yet, and those that have
ended and are still to be joined. -/
structure Tasks where
  waiting : List ListedMembership
  ended : List Completion

namespace Tasks

def spawn (ms : List ListedMembership) : Tasks :=
  ⟨ms, []⟩

/-- How many turns are left. One that waits has to ask, and then to be joined. -/
def size (t : Tasks) : Nat :=
  2 * t.waiting.length + t.ended.length

/-- What can happen next: one of those that wait asks, or one of those that have ended is joined. -/
inductive Turn (t : Tasks)
  | ask (before : List ListedMembership) (m : ListedMembership) (after : List ListedMembership)
      (h : t.waiting = before ++ m :: after)
  | join (before : List Completion) (c : Completion) (after : List Completion)
      (h : t.ended = before ++ c :: after)

abbrev Scheduler :=
  (t : Tasks) → t.size ≠ 0 → t.Turn

variable {t : Tasks}

theorem size_eq_zero_iff : t.size = 0 ↔ t.waiting = [] ∧ t.ended = [] := by
  rw [size, ← List.length_eq_zero_iff, ← List.length_eq_zero_iff]
  omega

theorem size_of_ask {before after : List ListedMembership} {m : ListedMembership}
    (h : t.waiting = before ++ m :: after) (c : Completion) :
    size ⟨before ++ after, t.ended ++ [c]⟩ < t.size := by
  simp only [size, h, List.length_append, List.length_cons, List.length_nil]
  omega

theorem size_of_join {before after : List Completion} {c : Completion}
    (h : t.ended = before ++ c :: after) : size ⟨t.waiting, before ++ after⟩ < t.size := by
  simp only [size, h, List.length_append, List.length_cons]
  omega

/-- All ask before any is joined, and are joined in the order in which they were started. -/
def inOrder : Scheduler := fun t h =>
  match hwaiting : t.waiting with
  | m :: rest => .ask [] m rest hwaiting
  | [] =>
    match hended : t.ended with
    | c :: rest => .join [] c rest hended
    | [] => absurd (size_eq_zero_iff.mpr ⟨hwaiting, hended⟩) h

/-- As `inOrder`, but the one that was started last is joined first. -/
def inReverse : Scheduler := fun t h =>
  match hwaiting : t.waiting with
  | m :: rest => .ask [] m rest hwaiting
  | [] =>
    have hended : t.ended ≠ [] := fun hended => h (size_eq_zero_iff.mpr ⟨hwaiting, hended⟩)
    .join t.ended.dropLast (t.ended.getLast hended) [] (List.dropLast_concat_getLast hended).symm

end Tasks

namespace GroupsClient

variable {σ : Type}

def lookUp (client : GroupsClient σ) (m : ListedMembership) (s : σ) : Completion × σ :=
  let answer := client.membership m.id s
  (⟨m, answer.1⟩, answer.2)

/-- Runs look-ups until all are joined, or one that failed is. -/
def joinAll (client : GroupsClient σ) (scheduler : Tasks.Scheduler) (t : Tasks) (s : σ) :
    Except AccessError (List Completion) × σ :=
  if h : t.size = 0 then (.ok [], s)
  else
    match scheduler t h with
    | .ask before m after _ =>
        let asked := client.lookUp m s
        client.joinAll scheduler ⟨before ++ after, t.ended ++ [asked.1]⟩ asked.2
    | .join before c after _ =>
        match c.outcome.failure? with
        | some cause => (.error cause, s)
        | none =>
            let more := client.joinAll scheduler ⟨t.waiting, before ++ after⟩ s
            (more.1.map (c :: ·), more.2)
termination_by t.size
decreasing_by
  · exact Tasks.size_of_ask ‹_› _
  · exact Tasks.size_of_join ‹_›

end GroupsClient

end AccessGovernance
