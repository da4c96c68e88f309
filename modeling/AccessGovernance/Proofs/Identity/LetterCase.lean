import AccessGovernance.Proofs.Identity.PrincipalText
import AccessGovernance.Proofs.Related
import AccessGovernance.Text.LowerCase.Forms

/-! # Principals in any letter case

A text and its lower-case form are read as principals of one kind, or both as none. The values are
lower-case forms of one text, so they are equal but for sigmas: a sigma may end a word where the
value or a label of it is lower-cased by itself and not where the whole text is, or the other way
round.
-/

namespace AccessGovernance

open Text (Lowering AreForms)

variable {s t : List Char}

theorem Text.rel_canonicalWithout? {sep : Char} (hsep : isInert sep = true) (h : Lowering s t) :
    Option.Rel (AreForms s) (canonicalWithout? sep s) (canonicalWithout? sep t) := by
  have hforms : AreForms (trim s) (canonical s) (canonical t) := h.trim.areForms_lower
  have hrefused : (canonical t = [] ∨ sep ∈ canonical t) ↔
      (canonical s = [] ∨ sep ∈ canonical s) := by
    rw [canonical, canonical, lower_eq_nil_iff, lower_eq_nil_iff, mem_lower_iff hsep,
      mem_lower_iff hsep, h.trim.eq_nil_iff, h.trim.mem_iff hsep]
  rw [canonicalWithout?, canonicalWithout?]
  by_cases hs : canonical s = [] ∨ sep ∈ canonical s
  · rw [if_pos hs, if_pos (hrefused.mpr hs)]
    exact .none
  · rw [if_neg hs, if_neg (hrefused.not.mpr hs)]
    exact .some (hforms.of_mem mem_of_mem_trim)

/-! ## Values -/

theorem Email.rel_canonical? (h : Lowering s t) :
    Option.Rel (AreForms s) (canonical? s) (canonical? t) := by
  have hat : Text.isInert '@' = true := by decide
  have htrim := h.trim
  cases hcut : Text.cutLast? '@' (Text.trim s) with
  | none =>
    have hcut' : Text.cutLast? '@' (Text.trim t) = none := by
      rw [Text.cutLast?_eq_none_iff, htrim.mem_iff hat]
      exact Text.cutLast?_eq_none_iff.mp hcut
    rw [canonical?, canonical?, hcut, hcut']
    exact .none
  | some cut =>
    obtain ⟨part, domain⟩ := cut
    obtain ⟨hs, hdomain⟩ := Text.cutLast?_eq_some_iff.mp hcut
    rw [hs] at htrim
    -- the `@` is kept and no other becomes one, so both texts are divided at the same place
    obtain ⟨part', domain', ht, hpart, hdomain'⟩ := htrim.of_append_cons hat
    have hcut' : Text.cutLast? '@' (Text.trim t) = some (part', domain') := by
      rw [Text.cutLast?_eq_some_iff, hdomain'.mem_iff hat]
      exact ⟨ht, hdomain⟩
    have hforms := (hpart.trim.append (hdomain'.trim.cons_inert hat)).areForms_lower
    rw [canonical?, canonical?, hcut, hcut']
    simp only [hpart.trim.eq_nil_iff, hdomain'.trim.eq_nil_iff, hdomain'.trim.any_isBlank]
    split
    · exact .none
    · refine .some (hforms.of_mem fun hm => ?_)
      apply Text.mem_of_mem_trim
      rw [hs]
      rcases List.mem_append.mp hm with hm | hm
      · exact List.mem_append_left _ (Text.mem_of_mem_trim hm)
      · rcases List.mem_cons.mp hm with hm | hm
        · exact absurd hm (by decide)
        · exact List.mem_append_right _ (List.mem_cons_of_mem _ (Text.mem_of_mem_trim hm))

theorem Email.map_text_ofText? (s : String) :
    (ofText? s).map (fun e => e.text.toList) = canonical? s.toList := by
  unfold ofText?
  split
  · rename_i hnone
    exact hnone.symm
  · rename_i u hsome
    rw [Option.map_some, String.toList_ofList]
    exact hsome.symm

theorem Email.rel_ofText? (h : Lowering s t) :
    Option.Rel (fun e e' : Email => AreForms s e.text.toList e'.text.toList)
      (ofText? (String.ofList s)) (ofText? (String.ofList t)) := by
  apply rel_of_rel_map (f := fun e : Email => e.text.toList) (g := fun e : Email => e.text.toList)
  rw [map_text_ofText?, map_text_ofText?, String.toList_ofList, String.toList_ofList]
  exact rel_canonical? h

theorem HostedDomain.map_text_ofChars? (s : List Char) :
    (ofChars? s).map (fun d => d.text.toList) = Text.canonicalWithout? '@' s := by
  unfold ofChars?
  split
  · rename_i hnone
    exact hnone.symm
  · rename_i u hsome
    rw [Option.map_some, String.toList_ofList]
    exact hsome.symm

theorem HostedDomain.rel_ofChars? (h : Lowering s t) :
    Option.Rel (fun d d' : HostedDomain => AreForms s d.text.toList d'.text.toList)
      (ofChars? s) (ofChars? t) := by
  apply rel_of_rel_map (f := fun d : HostedDomain => d.text.toList)
    (g := fun d : HostedDomain => d.text.toList)
  rw [map_text_ofChars?, map_text_ofChars?]
  exact Text.rel_canonicalWithout? (by decide) h

theorem Label.map_text_ofChars? (s : List Char) :
    (ofChars? s).map (fun l => l.text.toList) = Text.canonicalWithout? '.' s := by
  unfold ofChars?
  split
  · rename_i hnone
    exact hnone.symm
  · rename_i u hsome
    rw [Option.map_some, String.toList_ofList]
    exact hsome.symm

theorem Label.rel_ofChars? (h : Lowering s t) :
    Option.Rel (fun l l' : Label => AreForms s l.text.toList l'.text.toList)
      (ofChars? s) (ofChars? t) := by
  apply rel_of_rel_map (f := fun l : Label => l.text.toList) (g := fun l : Label => l.text.toList)
  rw [map_text_ofChars?, map_text_ofChars?]
  exact Text.rel_canonicalWithout? (by decide) h

theorem JitGroup.rel_ofChars? {environment environment' system system' name name' : List Char}
    (he : Lowering environment environment') (hs : Lowering system system')
    (hn : Lowering name name') (hsigma : ∀ f ∈ [environment, system, name], 'Σ' ∈ f → 'Σ' ∈ s) :
    Option.Rel (fun g g' : JitGroup => AreForms s g.text.toList g'.text.toList)
      (ofChars? environment system name) (ofChars? environment' system' name') := by
  have hdot : Text.isInert '.' = true := by decide
  refine rel_bind (Label.rel_ofChars? he) fun e e' he => ?_
  refine rel_bind (Label.rel_ofChars? hs) fun s s' hs => ?_
  refine rel_bind (Label.rel_ofChars? hn) fun n n' hn => .some ?_
  rw [toList_text, toList_text]
  apply (he.of_mem (hsigma _ (by simp))).append_cons hdot
  exact (hs.of_mem (hsigma _ (by simp))).append_cons hdot (hn.of_mem (hsigma _ (by simp)))

theorem JitGroup.rel_ofFields? (h : Lowering s t) :
    Option.Rel (fun g g' : JitGroup => AreForms s g.text.toList g'.text.toList)
      (ofFields? (Text.fields '.' s)) (ofFields? (Text.fields '.' t)) := by
  have hfields := h.fields (by decide : Text.isInert '.' = true)
  have hsigma : ∀ f ∈ Text.fields '.' s, 'Σ' ∈ f → 'Σ' ∈ s :=
    fun f hf hm => Text.mem_of_mem_fields hf hm
  generalize Text.fields '.' s = fs, Text.fields '.' t = fs' at hfields hsigma
  cases hfields with
  | nil => exact .none
  | cons he hfields =>
    cases hfields with
    | nil => exact .none
    | cons hs hfields =>
      cases hfields with
      | nil => exact .none
      | cons hn hfields =>
        cases hfields with
        | nil => exact rel_ofChars? he hs hn hsigma
        | cons _ _ => exact .none

theorem UserClass.isPlainLetter_text (c : UserClass) :
    ∀ x ∈ c.text.toList, Text.isPlainLetter x = true := by
  apply List.all_eq_true.mp
  cases c <;> decide

theorem UserClass.ofChars?_eq_of_lowering (h : Lowering s t) : ofChars? t = ofChars? s := by
  have hmeans : ∀ c : UserClass, c.text.toList = Text.lower t ↔ c.text.toList = Text.lower s := by
    intro c
    rw [h.lower_eq, eq_comm, h.eq_iff_map_toLower_eq c.isPlainLetter_text, eq_comm (b := Text.lower s),
      (Text.lowering_lower s).eq_iff_map_toLower_eq c.isPlainLetter_text]
  simp only [ofChars?, hmeans]

/-- A class has one text only, which is a lower-case form of whatever is read as the class. -/
theorem UserClass.areForms_text {c : UserClass} (h : ofChars? s = some c) :
    AreForms s c.text.toList c.text.toList := by
  rw [ofChars?] at h
  have hlower := List.find?_some h
  rw [of_decide_eq_true hlower]
  exact ⟨s, id, Text.lowering_lower s, Text.lowering_lower s⟩

namespace PrincipalKind

theorem isPlainLetter_name (k : PrincipalKind) :
    ∀ x ∈ k.name.toList.map Char.toLower, Text.isPlainLetter x = true := by
  apply List.all_eq_true.mp
  cases k <;> decide

theorem ofChars?_eq_of_lowering (h : Lowering s t) : ofChars? t = ofChars? s := by
  apply Option.ext
  intro k
  rw [ofChars?_eq_some_iff, ofChars?_eq_some_iff]
  exact h.map_toLower_eq_iff k.isPlainLetter_name

end PrincipalKind

/-! ## Whole texts -/

namespace PrincipalId

theorem rel_ofValue? (k : PrincipalKind) (h : Lowering s t) :
    Option.Rel (fun p q : PrincipalId => p.kind = q.kind ∧ AreForms s p.value.toList q.value.toList)
      (ofValue? k s) (ofValue? k t) := by
  cases k with
  | user => exact rel_map (rel_map (Email.rel_ofText? h) fun _ _ => id) fun _ _ he => ⟨rfl, he⟩
  | group => exact rel_map (rel_map (Email.rel_ofText? h) fun _ _ => id) fun _ _ he => ⟨rfl, he⟩
  | serviceAccount =>
    exact rel_map (rel_map (Email.rel_ofText? h) fun _ _ => id) fun _ _ he => ⟨rfl, he⟩
  | jitGroup => exact rel_map (JitGroup.rel_ofFields? h) fun _ _ hg => ⟨rfl, hg⟩
  | userClass =>
    rw [ofValue?, ofValue?, UserClass.ofChars?_eq_of_lowering h]
    cases hc : UserClass.ofChars? s with
    | none => exact .none
    | some c => exact .some ⟨rfl, UserClass.areForms_text hc⟩
  | domain => exact rel_map (HostedDomain.rel_ofChars? h) fun _ _ hd => ⟨rfl, hd⟩

/-- The same kind is named, and the value is lower-cased with the whole text. -/
def AreTyped (s : List Char) (x y : PrincipalKind × List Char) : Prop :=
  x.1 = y.1 ∧ Lowering x.2 y.2 ∧ ('Σ' ∈ x.2 → 'Σ' ∈ s)

theorem rel_typed? (h : Lowering s t) : Option.Rel (AreTyped s) (typed? s) (typed? t) := by
  have hcolon : Text.isInert ':' = true := by decide
  cases hcut : Text.cutFirst? ':' s with
  | none =>
    have hs : ':' ∉ s := Text.cutFirst?_eq_none_iff.mp hcut
    rw [typed?_eq_none hs, typed?_eq_none fun ht => hs ((h.mem_iff hcolon).mp ht)]
    exact .none
  | some cut =>
    obtain ⟨name, value⟩ := cut
    obtain ⟨rfl, hname⟩ := Text.cutFirst?_eq_some_iff.mp hcut
    obtain ⟨name', value', rfl, hn, hv⟩ := h.of_append_cons hcolon
    have hname' : ':' ∉ name' := fun hm => hname ((hn.mem_iff hcolon).mp hm)
    rw [typed?_append_cons hname, typed?_append_cons hname',
      PrincipalKind.ofChars?_eq_of_lowering hn.trim]
    simp only [hv.trim.eq_nil_iff]
    split
    · exact .none
    · refine rel_map (rel_refl fun _ => rfl) fun k k' (hk : k = k') => ⟨hk, hv.trim, fun hm => ?_⟩
      exact List.mem_append_right _ (List.mem_cons_of_mem _ (Text.mem_of_mem_trim hm))

theorem rel_ofText? {s t : String} (h : Lowering s.toList t.toList) :
    Option.Rel
      (fun p q : PrincipalId => p.kind = q.kind ∧ AreForms s.toList p.value.toList q.value.toList)
      (ofText? s) (ofText? t) := by
  refine rel_bind (rel_typed? h) ?_
  rintro ⟨k, v⟩ ⟨k', v'⟩ ⟨rfl, hv, hsigma⟩
  apply rel_imp (rel_ofValue? k hv)
  exact fun _ _ ⟨hkind, hvalue⟩ => ⟨hkind, hvalue.of_mem hsigma⟩

/-- A text and its lower-case form are read as principals of one kind whose values are equal but for
sigmas, or both as none. They are read as one principal unless there is a capital sigma. -/
theorem ofText?_lower (s : String) :
    Option.Rel
      (fun p q : PrincipalId => p.kind = q.kind ∧
        Text.EqButSigma p.value.toList q.value.toList)
      (ofText? s) (ofText? (String.ofList (Text.lower s.toList))) ∧
    ('Σ' ∉ s.toList → ofText? (String.ofList (Text.lower s.toList)) = ofText? s) := by
  have hlower : Lowering s.toList (String.ofList (Text.lower s.toList)).toList := by
    rw [String.toList_ofList]
    exact Text.lowering_lower s.toList
  have hrel := rel_ofText? hlower
  refine ⟨rel_imp hrel fun p q ⟨hkind, hvalue⟩ => ⟨hkind, hvalue.eqButSigma⟩, fun hs => ?_⟩
  generalize ofText? s = o, ofText? (String.ofList (Text.lower s.toList)) = o' at hrel
  cases hrel with
  | none => rfl
  | some h =>
    obtain ⟨hkind, hvalue⟩ := h
    exact congrArg some (eq_of_kind_of_value hkind.symm
      (String.toList_inj.mp (hvalue.eq_of_not_mem hs).symm))

/-- A label may end in a capital sigma where the whole text goes on after the dot. -/
theorem ofText?_lower_of_sigma :
    ofText? "jitgroup:ΑΣ.shop.web" ≠ ofText? "jitgroup:ασ.shop.web" ∧
      String.ofList (Text.lower "jitgroup:ΑΣ.shop.web".toList) = "jitgroup:ασ.shop.web" ∧
        (ofText? "jitgroup:ΑΣ.shop.web").isSome = true := by
  decide +kernel

end PrincipalId

end AccessGovernance
