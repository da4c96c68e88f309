import AccessGovernance.Expression.Evaluation
import AccessGovernance.Proofs.Expression.Parsing
import Mathlib.Data.List.Forall2

/-! # Function calls and method calls

A call is written with all its arguments in parentheses, or as a method call on the first of them.
Both are parsed to the same expression, whatever the receiver is, as long as it stands in
parentheses or needs none. So calls one after the other can be written with any mixture of the two
forms.
-/

namespace AccessGovernance

namespace Expression

/-- A function, the tokens of its arguments but the first, and what these are parsed to. -/
structure Call where
  function : String
  isName : Literal.ofWord? function = none
  args : List (List Token)
  operands : List Expression
  parsed : List.Forall₂ (fun ts e => ofTokens ts = .ok e) args operands

namespace Call

/-- The call of the function with these tokens as its first argument. -/
def asFunction (c : Call) (first : List Token) : List Token :=
  .identifier c.function :: .openParen ::
    ([.comma].intercalate (first :: c.args) ++ [.closeParen])

/-- The call of the method on these tokens. -/
def asMethod (c : Call) (receiver : List Token) : List Token :=
  receiver ++ .dot :: .identifier c.function :: .openParen ::
    ([.comma].intercalate c.args ++ [.closeParen])

def on (c : Call) (first : Expression) : Expression :=
  .call c.function (first :: c.operands)

/-- What the call makes of the value of its first argument. -/
def apply (context : Json) (c : Call) (first : Json) : Except Malformation Json := do
  applyFunction c.function (first :: (← values context c.operands))

end Call

def parenthesized (ts : List Token) : List Token :=
  .openParen :: (ts ++ [.closeParen])

/-- What can stand before a dot without parentheses. -/
inductive IsReceiver : Expression → Prop
  | path (first : String) (keys : List String) : IsReceiver (.path first keys)
  | string (s : String) : IsReceiver (.literal (.string s))
  | call (function : String) (args : List Expression) : IsReceiver (.call function args)

/-- The tokens write these calls one after the other, the first of them on what the tokens `start`
are parsed to. Each call is in one of the two forms. -/
inductive WritesCalls (start : List Token) (e : Expression) : List Call → List Token → Prop
  | parentheses : WritesCalls start e [] (parenthesized start)
  | receiver (h : e.IsReceiver) : WritesCalls start e [] start
  | first (c : Call) : WritesCalls start e [c] (c.asFunction start)
  | function {calls : List Call} {ts : List Token} (c : Call) (h : WritesCalls start e calls ts) :
      WritesCalls start e (calls ++ [c]) (c.asFunction ts)
  | method {calls : List Call} {ts : List Token} (c : Call) (h : WritesCalls start e calls ts) :
      WritesCalls start e (calls ++ [c]) (c.asMethod ts)

variable {ts start : List Token} {tss : List (List Token)} {e : Expression} {es : List Expression}
  {calls : List Call} {context : Json}

/-! ## Derivations of calls -/

theorem IsDisjunction.isSelection (h : IsDisjunction ts e) (he : e.IsReceiver) :
    IsSelection ts e := by
  match h with
  | .single (.single (.single (.primary (.selection h)))) => exact h
  | .single (.single (.single (.primary (.word hword)))) =>
    rcases Literal.ofWord?_eq_some hword with ⟨-, rfl⟩ | ⟨-, rfl⟩ | ⟨-, rfl⟩ <;> cases he

theorem isItems_intercalate (h : IsDisjunction ts e) (hs : List.Forall₂ IsDisjunction tss es) :
    IsItems ([.comma].intercalate (ts :: tss)) (e :: es) := by
  induction hs generalizing ts e with
  | nil => simpa using IsItems.last h
  | cons hnext _ ih => simpa using IsItems.cons h (ih hnext)

theorem isArguments_intercalate (hs : List.Forall₂ IsDisjunction tss es) :
    IsArguments ([.comma].intercalate tss) es := by
  cases hs with
  | nil => exact .none
  | cons h hs => exact .some (isItems_intercalate h hs)

namespace Call

theorem isDisjunction_args (c : Call) : List.Forall₂ IsDisjunction c.args c.operands :=
  c.parsed.imp fun _ _ => isDisjunction_of_ofTokens_eq_ok

theorem isSelection_asFunction (c : Call) (h : IsDisjunction ts e) :
    IsSelection (c.asFunction ts) (c.on e) :=
  .call c.isName (isArguments_intercalate (.cons h c.isDisjunction_args))

theorem isSelection_asMethod (c : Call) (h : IsSelection ts e) :
    IsSelection (c.asMethod ts) (c.on e) :=
  .method h (isArguments_intercalate c.isDisjunction_args)

end Call

/-- The expression so far is a selection after every call, so that a dot or a comma may follow. -/
theorem WritesCalls.isSelection (hstart : IsDisjunction start e)
    (h : WritesCalls start e calls ts) : IsSelection ts (calls.foldl (fun e c => c.on e) e) := by
  induction h with
  | parentheses => exact .parentheses hstart
  | receiver he => exact hstart.isSelection he
  | first c => exact c.isSelection_asFunction hstart
  | function c _ ih =>
    rw [List.foldl_concat]
    exact c.isSelection_asFunction ih.isDisjunction
  | method c _ ih =>
    rw [List.foldl_concat]
    exact c.isSelection_asMethod ih

theorem value_on (c : Call) (e : Expression) :
    value context (c.on e) = value context e >>= c.apply context := by
  rw [Call.on, value, values]
  cases value context e with
  | error cause => rfl
  | ok a =>
    change _ = c.apply context a
    rw [Call.apply]
    cases values context c.operands <;> rfl

theorem value_foldl_on (calls : List Call) (e : Expression) :
    value context (calls.foldl (fun e c => c.on e) e) =
      value context e >>= calls.foldlM fun a c => c.apply context a := by
  induction calls generalizing e with
  | nil => exact (bind_pure (value context e)).symm
  | cons c calls ih =>
    rw [List.foldl_cons, ih, value_on, bind_assoc]
    rfl

/-- The two forms of a call are parsed to one expression, and so are all ways to write calls one
after the other on a receiver that is parsed on its own. The value of the receiver goes through the
functions in the order of the calls. -/
theorem ofTokens_writesCalls (h : ofTokens start = .ok e) :
    (∀ c : Call,
      ofTokens (c.asFunction start) = .ok (.call c.function (e :: c.operands)) ∧
      ofTokens (c.asMethod (parenthesized start)) = .ok (.call c.function (e :: c.operands)) ∧
      (e.IsReceiver →
        ofTokens (c.asMethod start) = .ok (.call c.function (e :: c.operands)))) ∧
    (∀ calls ts, WritesCalls start e calls ts →
      ofTokens ts = .ok (calls.foldl (fun e c => c.on e) e)) ∧
    ∀ (calls : List Call) (context : Json),
      value context (calls.foldl (fun e c => c.on e) e) =
        value context e >>= calls.foldlM fun a c => c.apply context a := by
  have hwrites : ∀ {calls ts}, WritesCalls start e calls ts →
      ofTokens ts = .ok (calls.foldl (fun e c => c.on e) e) := fun hcalls =>
    (hcalls.isSelection (isDisjunction_of_ofTokens_eq_ok h)).isDisjunction.ofTokens_eq_ok
  refine ⟨fun c => ⟨hwrites (.first c), hwrites (.method c .parentheses), ?_⟩, ?_, ?_⟩
  · intro he
    exact hwrites (.method c (.receiver he))
  · intro calls ts
    exact hwrites
  · intro calls context
    exact value_foldl_on calls e

namespace Sample

def justification : List Token :=
  [.identifier "input", .dot, .identifier "justification"]

def startsWith : Call where
  function := "startsWith"
  isName := by decide
  args := [[.string "b/"]]
  operands := [.literal (.string "b/")]
  parsed := .cons (IsSelection.string "b/").isDisjunction.ofTokens_eq_ok .nil

end Sample

theorem ofTokens_writesCalls_on_justification :
    ofTokens Sample.justification = .ok (.path "input" ["justification"]) ∧
    ofTokens (Sample.startsWith.asMethod Sample.justification) =
      ofTokens (Sample.startsWith.asFunction Sample.justification) := by
  have hreceiver : ofTokens Sample.justification = .ok (.path "input" ["justification"]) := by cbv
  obtain ⟨hforms, -⟩ := ofTokens_writesCalls hreceiver
  obtain ⟨hfunction, -, hmethod⟩ := hforms Sample.startsWith
  exact ⟨hreceiver, (hmethod (.path ..)).trans hfunction.symm⟩

end Expression

end AccessGovernance
