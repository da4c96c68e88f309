import AccessGovernance.Proofs.Expression.Printing
import AccessGovernance.Proofs.Policy.CheckOutcomes

/-! # Names of inputs in expressions

An expression gets at a declared input by its name after `input` and a dot. The words that stand for
literals can be names there as all other words can. Only an input of the name `in` is out of reach,
because that word is read as an operator before anybody sees the dot in front of it.
-/

namespace AccessGovernance

namespace Expression

/-- A letter or an underscore, and letters, digits and underscores after it. -/
def IsWord (name : String) : Prop :=
  ∃ c rest, name.toList = c :: rest ∧ (c.isAlpha ∨ c = '_') ∧ ∀ d ∈ rest, d.isAlphanum ∨ d = '_'

variable {name : String}

theorem isName_iff_isWord : IsName name ↔ name ≠ "in" ∧ IsWord name :=
  Iff.rfl

theorem tokenize_of_isWord (h : IsWord name) :
    tokenize name.toList = .ok [wordToken name.toList] := by
  obtain ⟨c, part, hname, hc, hpart⟩ := h
  have hstart : isWordStart c = true := by simpa [isWordStart] using hc
  have hparts : ∀ d ∈ part, isWordPart d = true := by simpa [isWordPart] using hpart
  have hword : tokenize (c :: part ++ []) = _ :=
    tokenize_word_append_of_head hstart hparts (fun _ hd => by cases hd)
  rwa [List.append_nil, tokenize, ← hname] at hword

theorem tokenize_input_append (h : IsWord name) :
    tokenize ("input." ++ name).toList =
      .ok [.identifier "input", .dot, wordToken name.toList] := by
  have hparts : ∀ d ∈ ['n', 'p', 'u', 't'], isWordPart d = true := by simp [isWordPart]
  have htext : ("input." ++ name).toList = 'i' :: ['n', 'p', 'u', 't'] ++ '.' :: name.toList :=
    String.toList_append
  have hdot : tokenize ('.' :: name.toList) = .ok [.dot, wordToken name.toList] := by
    rw [tokenize_cons (.all name.toList) rfl rfl]
    exact congrArg (Except.map _) (tokenize_of_isWord h)
  rw [htext, tokenize_word_append_of_head rfl hparts (fun _ => by rintro ⟨⟩; rfl), hdot]
  rfl

/-- After a dot there must be a name. -/
theorem ofTokens_of_operator_after_dot {first : String} (h : Literal.ofWord? first = none)
    (op : Operator) (tail : List Token) :
    ofTokens (.identifier first :: .dot :: .operator op :: tail) = .error .expectedIdentifier := by
  have hselections : selections (.path first []) (.dot :: .operator op :: tail) =
      .error .expectedIdentifier := by
    rw [selections]
    · rfl
    · simp
  rw [ofTokens, if_neg (List.cons_ne_nil _ _), disjunction, conjunction, comparison,
    negation_eq_primary (by simp), primary_path h (by simp), hselections]
  rfl

theorem ofText_input_append (h : IsWord name) :
    ofText ("input." ++ name) =
      if name = "in" then .error .expectedIdentifier else .ok (.path "input" [name]) := by
  split
  · rename_i hin
    subst hin
    rw [ofText, tokenize_input_append h]
    exact ofTokens_of_operator_after_dot rfl .isIn []
  · rename_i hin
    have hselection : IsSelection [.identifier "input", .dot, .identifier name]
        (.path "input" [name]) := isSelection_pathTokens rfl [name]
    rw [ofText, tokenize_input_append h, wordToken_of_isName (isName_iff_isWord.mpr ⟨hin, h⟩)]
    exact hselection.isDisjunction.ofTokens_eq_ok

end Expression

namespace Constraint

variable {c : Constraint} {p : Property} {name : String} {b : Bool} {i : CheckInput}

theorem value_exposed_of_lookup {value : Json} (hvalue : i.inputs.lookup p.name = some value) :
    Expression.value (exposed [p] i) (.path "input" [p.name]) = .ok value := by
  have hinput : (exposed [p] i).get? "input" = some (.ofFields (inputFields [p] i.inputs)) :=
    (get?_exposed [p] i "input").trans (if_pos rfl)
  have hname : (Json.ofFields (inputFields [p] i.inputs)).get? p.name = some value := by
    rw [get?_ofFields_inputFields, if_pos (by simp), hvalue, Option.getD_some]
  rw [Expression.value, Expression.follow, hinput, Option.bind_some, Expression.follow, hname]
  rfl

theorem check_of_bool (hrule : c.rule = .expression ("input." ++ p.name) [p])
    (hword : Expression.IsWord p.name) (htype : p.type = .bool)
    (hvalue : i.inputs.lookup p.name = some (.bool b)) :
    c.check i = if p.name = "in" then .error (.malformed .expectedIdentifier) else .ok b := by
  have hsound : ∀ q ∈ [p], q.IsSound i.inputs := by
    rw [List.forall_mem_singleton]
    exact Property.isSound_of_admits hvalue (htype ▸ .bool b)
  have hrange : ∀ q ∈ [p], ¬ q.IsOutOfRange i.inputs := by
    rw [List.forall_mem_singleton]
    rintro ⟨value, hsome, hexcludes⟩
    obtain rfl := Option.some.inj (hvalue.symm.trans hsome)
    exact Property.not_excludes rfl hexcludes
  have htext := Expression.ofText_input_append hword
  apply IsOutcome.check_eq hrule
  split at htext
  · rename_i hin
    rw [if_pos hin]
    exact .malformed hsound hrange htext
  · rename_i hin
    have hevaluate : Expression.evaluate (.path "input" [p.name]) (exposed [p] i) = .ok b := by
      rw [Expression.evaluate, value_exposed_of_lookup hvalue]
    rw [if_neg hin, ← hevaluate]
    exact .evaluated hsound hrange htext

/-- An input with the name of a word is what the path to it leads to, unless the word is `in`. For
that name there is no path. -/
theorem check_input_of_isWord (hword : Expression.IsWord name) :
    (Expression.ofText ("input." ++ name) =
      if name = "in" then .error .expectedIdentifier else .ok (.path "input" [name])) ∧
    ∀ (c : Constraint) (p : Property) (i : CheckInput) (b : Bool), p.name = name →
      p.type = .bool → c.rule = .expression ("input." ++ name) [p] →
        i.inputs.lookup name = some (.bool b) →
          c.check i = if name = "in" then .error (.malformed .expectedIdentifier) else .ok b := by
  refine ⟨Expression.ofText_input_append hword, ?_⟩
  rintro c p i b rfl htype hrule hvalue
  exact check_of_bool hrule hword htype hvalue

/-- A check of whether an input of this name is true. -/
def Sample.asksFor (name : String) : Constraint :=
  ⟨"flag", "Flag", .expression ("input." ++ name) [⟨name, "Flag", .bool, true, none, none⟩],
    by decide, by decide +kernel, rfl⟩

/-- A word that stands for a literal elsewhere is a name like others here. -/
theorem check_input_named_true : Expression.IsWord "true" ∧
    Expression.ofText ("input." ++ "true") = .ok (.path "input" ["true"]) ∧
    (Sample.asksFor "true").check (CheckInput.empty.withInput "true" (.bool false)) =
      .ok false := by
  have hword : Expression.IsWord "true" := ⟨'t', ['r', 'u', 'e'], rfl, .inl rfl, by simp⟩
  obtain ⟨htext, hcheck⟩ := check_input_of_isWord hword
  exact ⟨hword, htext, hcheck _ _ _ _ rfl rfl rfl rfl⟩

theorem check_input_named_in : Expression.IsWord "in" ∧
    (Sample.asksFor "in").check (CheckInput.empty.withInput "in" (.bool true)) =
      .error (.malformed .expectedIdentifier) := by
  have hword : Expression.IsWord "in" := ⟨'i', ['n'], rfl, .inl rfl, by simp⟩
  exact ⟨hword, check_of_bool (p := ⟨"in", "Flag", .bool, true, none, none⟩) rfl hword rfl rfl⟩

end Constraint

end AccessGovernance
