import AccessGovernance.Text.LowerCase.Lemmas
import AccessGovernance.Text.Split
import Mathlib.Data.List.Forall2

/-! # Lower-case forms of parts

The parts of a lower-cased text are lower-case forms of the parts of the text, though a part that is
lower-cased by itself may end in another sigma. So two lower-case forms of one text differ in sigmas
only, and among the names that have neither a sigma nor a `k` in them, ignoring the case of ASCII
letters is as good as lower-casing.
-/

namespace AccessGovernance.Text

variable {s s' t t' : List Char}

/-! ## Parts -/

theorem Lowering.append (h : Lowering s t) (h' : Lowering s' t') : Lowering (s ++ s') (t ++ t') := by
  induction h with
  | nil => exact h'
  | cons hc _ ih =>
    rw [List.cons_append, List.append_assoc]
    exact .cons hc ih

theorem isLowerForm_of_isInert {c : Char} (hc : isInert c = true) : IsLowerForm c [c] := by
  have hsigma : c ≠ 'Σ' := by
    rintro rfl
    exact absurd hc (by decide)
  have hform : IsLowerForm c (lowerOf c) := .plain hsigma
  rwa [hform.eq_of_inert hc] at hform

theorem Lowering.cons_inert {c : Char} (hc : isInert c = true) (h : Lowering s t) :
    Lowering (c :: s) (c :: t) :=
  .cons (isLowerForm_of_isInert hc) h

theorem Lowering.eq_of_blank (h : Lowering s t) (hs : ∀ c ∈ s, isBlank c = true) : t = s := by
  induction h with
  | nil => rfl
  | cons hc _ ih =>
    obtain ⟨hblank, hs⟩ := List.forall_mem_cons.1 hs
    rw [hc.eq_of_inert (isInert_of_isBlank hblank), ih hs]
    rfl

theorem Lowering.trim (h : Lowering s t) : Lowering (trim s) (trim t) := by
  obtain ⟨l, r, hs, hl, hr⟩ := exists_eq_blanks_append s
  rw [hs] at h
  obtain ⟨u, w, rfl, hu, hw⟩ := h.of_append
  obtain ⟨m, v, rfl, hm, hv⟩ := hw.of_append
  rw [hu.eq_of_blank hl, hv.eq_of_blank hr, trim_blanks_append_append hl hr,
    hm.trim_eq (trim_trim s)]
  exact hm

theorem Lowering.any_isBlank (h : Lowering s t) : t.any isBlank = s.any isBlank := by
  rw [Bool.eq_iff_iff, List.any_eq_true, List.any_eq_true]
  refine exists_congr fun c => and_congr_left fun hblank => ?_
  exact h.mem_iff (isInert_of_isBlank hblank)

theorem Lowering.fields {sep : Char} (hsep : isInert sep = true) {s t : List Char}
    (h : Lowering s t) : List.Forall₂ Lowering (fields sep s) (fields sep t) := by
  cases hcut : cutFirst? sep s with
  | none =>
    have hs : sep ∉ s := cutFirst?_eq_none_iff.1 hcut
    have ht : sep ∉ t := fun hm => hs ((h.mem_iff hsep).1 hm)
    rw [fields_of_not_mem hs, fields_of_not_mem ht]
    exact .cons h .nil
  | some cut =>
    obtain ⟨a, b⟩ := cut
    obtain ⟨hs, ha⟩ := cutFirst?_eq_some_iff.1 hcut
    rw [hs] at h
    obtain ⟨u, v, rfl, hu, hv⟩ := h.of_append_cons hsep
    have hsepu : sep ∉ u := fun hm => ha ((hu.mem_iff hsep).1 hm)
    rw [hs, fields_append ha, fields_append hsepu]
    exact .cons hu (hv.fields hsep)
termination_by s.length
decreasing_by
  rw [hs, List.length_append, List.length_cons]
  omega

/-! ## Sigmas -/

/-- The small sigma that stands inside a word, for the one that ends it as well. -/
def medialSigma (c : Char) : Char :=
  if c = 'ς' then 'σ' else c

/-- The texts are equal but for which small sigma they have. -/
def EqButSigma (s t : List Char) : Prop :=
  s.map medialSigma = t.map medialSigma

theorem IsLowerForm.eqButSigma {c : Char} {b b' : List Char} (h : IsLowerForm c b)
    (h' : IsLowerForm c b') : EqButSigma b b' := by
  cases h with
  | plain hc =>
    cases h' with
    | plain => rfl
    | sigma => exact absurd rfl hc
    | finalSigma => exact absurd rfl hc
  | sigma =>
    cases h' with
    | plain hc => exact absurd rfl hc
    | sigma => rfl
    | finalSigma => rfl
  | finalSigma =>
    cases h' with
    | plain hc => exact absurd rfl hc
    | sigma => rfl
    | finalSigma => rfl

theorem Lowering.eqButSigma (h : Lowering s t) (h' : Lowering s t') : EqButSigma t t' := by
  induction h generalizing t' with
  | nil =>
    cases h'
    rfl
  | cons hc _ ih =>
    cases h' with
    | cons hc' hs' =>
      rw [EqButSigma, List.map_append, List.map_append]
      exact congrArg₂ _ (hc.eqButSigma hc') (ih hs')

/-- Only a capital sigma has several lower-case forms. -/
theorem Lowering.eq_of_not_mem (h : Lowering s t) (hs : 'Σ' ∉ s) : t = s.flatMap lowerOf := by
  induction h with
  | nil => rfl
  | cons hc _ ih =>
    rw [List.mem_cons, not_or] at hs
    rw [List.flatMap_cons, ih hs.2]
    cases hc with
    | plain => rfl
    | sigma => exact absurd rfl hs.1
    | finalSigma => exact absurd rfl hs.1

/-- Both texts are lower-case forms of one text, which has no capital sigma unless the first text
has one. -/
def AreForms (s t t' : List Char) : Prop :=
  ∃ raw, ('Σ' ∈ raw → 'Σ' ∈ s) ∧ Lowering raw t ∧ Lowering raw t'

theorem AreForms.eqButSigma (h : AreForms s t t') : EqButSigma t t' := by
  obtain ⟨raw, -, ht, ht'⟩ := h
  exact ht.eqButSigma ht'

theorem AreForms.eq_of_not_mem (h : AreForms s t t') (hs : 'Σ' ∉ s) : t = t' := by
  obtain ⟨raw, hraw, ht, ht'⟩ := h
  have hsigma : 'Σ' ∉ raw := fun hm => hs (hraw hm)
  rw [ht.eq_of_not_mem hsigma, ht'.eq_of_not_mem hsigma]

theorem AreForms.of_mem {u : List Char} (h : AreForms s t t') (hs : 'Σ' ∈ s → 'Σ' ∈ u) :
    AreForms u t t' := by
  obtain ⟨raw, hraw, ht, ht'⟩ := h
  exact ⟨raw, fun hm => hs (hraw hm), ht, ht'⟩

theorem AreForms.append_cons {u u' : List Char} {c : Char} (hc : isInert c = true)
    (h : AreForms s t t') (hu : AreForms s u u') : AreForms s (t ++ c :: u) (t' ++ c :: u') := by
  obtain ⟨raw, hraw, ht, ht'⟩ := h
  obtain ⟨rest, hrest, hu, hu'⟩ := hu
  refine ⟨raw ++ c :: rest, fun hm => ?_, ht.append (hu.cons_inert hc),
    ht'.append (hu'.cons_inert hc)⟩
  rcases List.mem_append.1 hm with hm | hm
  · exact hraw hm
  · rcases List.mem_cons.1 hm with rfl | hm
    · exact absurd hc (by decide)
    · exact hrest hm

theorem Lowering.areForms_lower (h : Lowering s t) : AreForms s (lower s) (lower t) := by
  rw [h.lower_eq]
  exact ⟨s, id, lowering_lower s, h⟩

/-! ## Names in ASCII -/

/-- A small letter of ASCII that nothing but itself and its capital letter is mapped to. The Kelvin
sign is mapped to `k`. -/
def isPlainLetter (c : Char) : Bool :=
  Nat.ble 0x61 c.toNat && Nat.ble c.toNat 0x7A && c ≠ 'k'

theorem isPlainLetter_iff {c : Char} :
    isPlainLetter c = true ↔ 0x61 ≤ c.toNat ∧ c.toNat ≤ 0x7A ∧ c.toNat ≠ 0x6B := by
  have hk : c ≠ 'k' ↔ c.toNat ≠ 0x6B := not_congr (Char.toNat_inj (d := 'k')).symm
  rw [isPlainLetter, Bool.and_eq_true, Bool.and_eq_true, Nat.ble_eq, Nat.ble_eq, and_assoc,
    decide_eq_true_iff, hk]

/-- The run maps no code point to a small letter of ASCII, except for the capital letters of ASCII
and the Kelvin sign. -/
def CaseRun.avoidsLetters (r : CaseRun) : Bool :=
  Nat.blt r.high 0x61 || Nat.blt 0x7A r.target ||
    (r.first == 0x41 && r.last == 0x5A && r.target == 0x61) ||
      (r.first == r.last && r.target == 0x6B)

theorem lowerRuns_avoidsLetters : lowerRuns.all CaseRun.avoidsLetters = true := by
  decide +kernel

theorem forall_of_ascii {p : Char → Prop} (h : ∀ n < 0x80, p (Char.ofNat n)) {c : Char}
    (hc : c.toNat < 0x80) : p c := by
  have hp := h c.toNat hc
  rwa [Char.ofNat_toNat] at hp

theorem lowerOf_of_ascii {c : Char} (hc : c.toNat < 0x80) : lowerOf c = [c.toLower] :=
  forall_of_ascii (p := fun c => lowerOf c = [c.toLower]) (by decide +kernel) hc

theorem lower_of_ascii {s : List Char} (h : ∀ c ∈ s, c.toNat < 0x80) :
    lower s = s.map Char.toLower := by
  have hsigma : 'Σ' ∉ s := fun hmem => absurd (h _ hmem) (by decide)
  rw [(lowering_lower s).eq_of_not_mem hsigma, List.map_eq_flatMap]
  exact List.flatMap_congr fun c hc => lowerOf_of_ascii (h c hc)

theorem toNat_toLower_lt {c : Char} (hc : c.toNat < 0x80) : c.toLower.toNat < 0x80 :=
  forall_of_ascii (p := fun c => c.toLower.toNat < 0x80) (by decide +kernel) hc

theorem toNat_lt_of_toLower {c : Char} (h : c.toLower.toNat < 0x80) : c.toNat < 0x80 := by
  unfold Char.toLower at h
  split at h
  · rename_i hc
    have hlast : c.toNat ≤ 0x5A := UInt32.le_iff_toNat_le.1 hc.2
    omega
  · exact h

theorem lowerOf_eq_singleton_iff {c x : Char} (hx : isPlainLetter x = true) :
    lowerOf c = [x] ↔ c.toLower = x := by
  obtain ⟨hlow, hhigh, hk⟩ := isPlainLetter_iff.1 hx
  constructor
  · intro h
    have hI : c ≠ 'İ' := by
      rintro rfl
      cases h
    have hn : x.toNat = mapRuns lowerRuns c.toNat := by
      rw [lowerOf, if_neg hI, List.singleton_inj] at h
      rw [← h, toNat_ofNat_mapRuns]
    have hc : c.toNat < 0x80 := by
      rcases mapRuns_eq_or lowerRuns c.toNat with hm | ⟨r, hr, ⟨hfirst, hlast, -⟩, hm⟩
      · omega
      · have havoid := List.all_eq_true.1 lowerRuns_avoidsLetters r hr
        simp only [CaseRun.avoidsLetters, CaseRun.high, Bool.or_eq_true, Bool.and_eq_true,
          Nat.blt_eq, beq_iff_eq] at havoid
        omega
    rw [lowerOf_of_ascii hc] at h
    exact List.singleton_inj.1 h
  · rintro rfl
    exact lowerOf_of_ascii (toNat_lt_of_toLower (by omega))

/-- A lower-case form has one character, but for the two that a capital I with a dot above has. -/
theorem IsLowerForm.eq_singleton_of_cons {c x : Char} {b : List Char} (h : IsLowerForm c (x :: b))
    (hb : ∀ y ∈ b, isPlainLetter y = true) : b = [] := by
  generalize hform : x :: b = form at h
  cases h with
  | plain =>
    rw [lowerOf] at hform
    split at hform
    · obtain ⟨-, rfl⟩ := List.cons.inj hform
      exact absurd (hb _ List.mem_cons_self) (by decide)
    · exact (List.cons.inj hform).2
  | sigma => exact (List.cons.inj hform).2
  | finalSigma => exact (List.cons.inj hform).2

theorem IsLowerForm.eq_singleton_iff {c x : Char} {b : List Char} (h : IsLowerForm c b)
    (hx : isPlainLetter x = true) : b = [x] ↔ c.toLower = x := by
  have hsigma : 'Σ'.toLower ≠ x := by
    rintro rfl
    exact absurd hx (by decide)
  cases h with
  | plain => exact lowerOf_eq_singleton_iff hx
  | sigma =>
    refine iff_of_false ?_ hsigma
    rintro ⟨⟩
    exact absurd hx (by decide)
  | finalSigma =>
    refine iff_of_false ?_ hsigma
    rintro ⟨⟩
    exact absurd hx (by decide)

theorem Lowering.eq_iff_map_toLower_eq {name : List Char} (h : Lowering s t)
    (hname : ∀ x ∈ name, isPlainLetter x = true) : t = name ↔ s.map Char.toLower = name := by
  induction h generalizing name with
  | nil => rfl
  | @cons c b s t hc _ ih =>
    rw [List.map_cons]
    constructor
    · intro heq
      obtain ⟨x, b, rfl⟩ := List.exists_cons_of_ne_nil hc.ne_nil
      subst heq
      rw [List.cons_append] at hname ⊢
      obtain ⟨hx, hrest⟩ := List.forall_mem_cons.1 hname
      obtain rfl := hc.eq_singleton_of_cons fun y hy => hrest y (List.mem_append_left t hy)
      rw [(hc.eq_singleton_iff hx).1 rfl, (ih hrest).1 rfl, List.nil_append]
    · rintro rfl
      obtain ⟨hx, hrest⟩ := List.forall_mem_cons.1 hname
      rw [(hc.eq_singleton_iff hx).2 rfl, (ih hrest).2 rfl]
      rfl

/-- For names of this kind a text may be lower-cased beforehand. -/
theorem Lowering.map_toLower_eq_iff {name : List Char} (h : Lowering s t)
    (hname : ∀ x ∈ name, isPlainLetter x = true) :
    t.map Char.toLower = name ↔ s.map Char.toLower = name := by
  have hlower : Lowering t t := by
    have ht := lowering_lower t
    rwa [h.lower_eq] at ht
  rw [← hlower.eq_iff_map_toLower_eq hname, h.eq_iff_map_toLower_eq hname]

end AccessGovernance.Text
