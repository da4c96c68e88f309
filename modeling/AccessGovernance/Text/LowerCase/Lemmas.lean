import AccessGovernance.Text.LowerCase

/-! # Laws of lower-casing

A lower-cased text consists of characters that lower-casing leaves alone, and it has the separators
and blanks of the text it was made from, in the same places. `Lowering s t` says the second without
naming the context in which a sigma stood, so that it splits along `++`.
-/

namespace AccessGovernance.Text

/-! ## The table -/

/-- Whether a code point is the source of a mapping of the run. -/
def CaseRun.Maps (r : CaseRun) (n : Nat) : Prop :=
  r.first ≤ n ∧ n ≤ r.last ∧ (n - r.first) % r.step = 0

def CaseRun.high (r : CaseRun) : Nat :=
  r.target + (r.last - r.first)

/-- No code point that `r` maps to is mapped by `q`, for one of three reasons. -/
def CaseRun.apart (r q : CaseRun) : Bool :=
  Nat.blt r.high q.first || Nat.blt q.last r.target ||
    ((r.step == 2 || r.first == r.last) && q.step == 2 && r.target % 2 != q.first % 2)

/-- The run maps no blank and nothing below the letters, and maps to characters that are neither
of both and not the capital I with a dot above. -/
def CaseRun.clear (r : CaseRun) : Bool :=
  Nat.blt 0x40 r.first && Nat.blt 0x40 r.target &&
    (Nat.blt r.high 0x130 || Nat.blt 0x130 r.target) &&
    (Nat.blt r.high 0xD800 || (Nat.blt 0xDFFF r.target && Nat.blt r.high 0x110000)) &&
    blankRanges.all fun b =>
      (Nat.blt r.high b.1 || Nat.blt b.2 r.target) && (Nat.blt r.last b.1 || Nat.blt b.2 r.first)

theorem lowerRuns_apart : (lowerRuns.all fun r => lowerRuns.all r.apart) = true := by
  decide +kernel

theorem lowerRuns_clear : lowerRuns.all CaseRun.clear = true := by
  decide +kernel

theorem CaseRun.not_maps_of_apart {r q : CaseRun} {n : Nat} (h : r.apart q = true)
    (hn : r.Maps n) : ¬ q.Maps (r.target + (n - r.first)) := by
  simp only [apart, high, Bool.or_eq_true, Bool.and_eq_true, Nat.blt_eq, beq_iff_eq, bne_iff_ne,
    ne_eq] at h
  obtain ⟨h1, h2, h3⟩ := hn
  rintro ⟨k1, k2, k3⟩
  rcases h with (h | h) | ⟨⟨h | h, hq⟩, hp⟩
  · omega
  · omega
  · rw [h] at h3
    rw [hq] at k3
    omega
  · rw [hq] at k3
    omega

theorem mapRuns_of_not_maps {runs : List CaseRun} {n : Nat} (h : ∀ r ∈ runs, ¬ r.Maps n) :
    mapRuns runs n = n := by
  induction runs with
  | nil => rfl
  | cons r rest ih =>
    have hr := h r (by simp)
    have ih := ih fun q hq => h q (by simp [hq])
    simp only [mapRuns]
    split
    · rfl
    · split
      · split
        · exact absurd ⟨by omega, by assumption, by assumption⟩ hr
        · rfl
      · exact ih

theorem mapRuns_eq_or (runs : List CaseRun) (n : Nat) :
    mapRuns runs n = n ∨ ∃ r ∈ runs, r.Maps n ∧ mapRuns runs n = r.target + (n - r.first) := by
  induction runs with
  | nil => exact .inl rfl
  | cons r rest ih =>
    simp only [mapRuns]
    split
    · exact .inl rfl
    · split
      · split
        · exact .inr ⟨r, by simp, ⟨by omega, by assumption, by assumption⟩, rfl⟩
        · exact .inl rfl
      · rcases ih with h | ⟨q, hq, h⟩
        · exact .inl h
        · exact .inr ⟨q, by simp [hq], h⟩

theorem mapRuns_lowerRuns_idem (n : Nat) :
    mapRuns lowerRuns (mapRuns lowerRuns n) = mapRuns lowerRuns n := by
  rcases mapRuns_eq_or lowerRuns n with h | ⟨r, hr, hn, h⟩
  · rw [h, h]
  · rw [h]
    refine mapRuns_of_not_maps fun q hq => CaseRun.not_maps_of_apart ?_ hn
    exact List.all_eq_true.1 (List.all_eq_true.1 lowerRuns_apart r hr) q hq

theorem isValidChar_mapRuns (c : Char) : (mapRuns lowerRuns c.toNat).isValidChar := by
  rcases mapRuns_eq_or lowerRuns c.toNat with h | ⟨r, hr, ⟨_, hl, _⟩, h⟩
  · rw [h]
    exact c.valid
  · have hc := List.all_eq_true.1 lowerRuns_clear r hr
    simp only [CaseRun.clear, CaseRun.high, Bool.and_eq_true, Bool.or_eq_true, Nat.blt_eq] at hc
    rw [h]
    unfold Nat.isValidChar
    omega

/-! ## One character -/

/-- Characters that stand for themselves in lower case and in the lower-case form of no other:
blanks, and what precedes the letters of ASCII, among it the separators of identifiers. -/
def isInert (c : Char) : Bool :=
  Nat.ble c.toNat 0x40 || isBlank c

/-- What lower-casing may put in place of a character, depending on the context. -/
inductive IsLowerForm : Char → List Char → Prop
  | plain {c : Char} (h : c ≠ 'Σ') : IsLowerForm c (lowerOf c)
  | sigma : IsLowerForm 'Σ' ['σ']
  | finalSigma : IsLowerForm 'Σ' ['ς']

/-- Lower-casing leaves the character alone, whatever its context. -/
def IsLower (c : Char) : Prop :=
  c ≠ 'Σ' ∧ lowerOf c = [c]

theorem toNat_ofNat_mapRuns (c : Char) :
    (Char.ofNat (mapRuns lowerRuns c.toNat)).toNat = mapRuns lowerRuns c.toNat := by
  rw [Char.ofNat, dif_pos (isValidChar_mapRuns c)]
  rfl

theorem mapRuns_sigma : mapRuns lowerRuns 'Σ'.toNat = 'σ'.toNat := by
  decide +kernel

theorem not_contains_blankRanges {n : Nat} {p : Nat → Nat → Bool}
    (h : blankRanges.all (fun b => p b.1 b.2) = true)
    (hp : ∀ lo hi, p lo hi = true → n < lo ∨ hi < n) : blankRanges.contains n = false := by
  generalize blankRanges = rs at h
  induction rs with
  | nil => rfl
  | cons b rs ih =>
    rw [List.all_cons, Bool.and_eq_true] at h
    have := hp _ _ h.1
    obtain ⟨lo, hi⟩ := b
    simp only [Ranges.contains]
    split
    · rfl
    · split
      · omega
      · exact ih h.2

theorem mapRuns_of_inert {c : Char} (h : isInert c = true) :
    mapRuns lowerRuns c.toNat = c.toNat := by
  refine mapRuns_of_not_maps fun r hr hm => ?_
  have hc := List.all_eq_true.1 lowerRuns_clear r hr
  simp only [CaseRun.clear, Bool.and_eq_true, Nat.blt_eq] at hc
  obtain ⟨hf, hl, _⟩ := hm
  simp only [isInert, Bool.or_eq_true, Nat.ble_eq] at h
  rcases h with h | h
  · omega
  · have hb := hc.2
    have : blankRanges.contains c.toNat = false :=
      not_contains_blankRanges (p := fun lo hi =>
        (Nat.blt r.high lo || Nat.blt hi r.target) && (Nat.blt r.last lo || Nat.blt hi r.first)) hb
        (by
          intro lo hi hp
          simp only [Bool.and_eq_true, Bool.or_eq_true, Nat.blt_eq] at hp
          omega)
    simp [isBlank, this] at h

theorem lowerOf_of_inert {c : Char} (h : isInert c = true) : lowerOf c = [c] := by
  have hi : c ≠ 'İ' := by
    rintro rfl
    revert h
    decide
  simp [lowerOf, hi, mapRuns_of_inert h, Char.ofNat_toNat]

theorem not_inert_of_maps {r : CaseRun} (hr : r ∈ lowerRuns) {n : Nat} (hn : r.Maps n) {d : Char}
    (hd : d.toNat = r.target + (n - r.first)) : isInert d = false := by
  have hc := List.all_eq_true.1 lowerRuns_clear r hr
  simp only [CaseRun.clear, CaseRun.high, Bool.and_eq_true, Nat.blt_eq] at hc
  obtain ⟨hf, hl, _⟩ := hn
  have : blankRanges.contains d.toNat = false :=
    not_contains_blankRanges (p := fun lo hi =>
      (Nat.blt (r.target + (r.last - r.first)) lo || Nat.blt hi r.target) &&
        (Nat.blt r.last lo || Nat.blt hi r.first)) hc.2
      (by
        intro lo hi hp
        simp only [Bool.and_eq_true, Bool.or_eq_true, Nat.blt_eq] at hp
        omega)
  have hlow : Nat.ble d.toNat 0x40 = false := by
    rw [← Bool.not_eq_true, Nat.ble_eq]
    omega
  simp [isInert, isBlank, this, hlow]

theorem eq_of_mem_lowerOf {c d : Char} (h : d ∈ lowerOf c) (hd : isInert d = true) : d = c := by
  unfold lowerOf at h
  split at h
  · simp only [List.mem_cons, List.not_mem_nil, or_false] at h
    rcases h with rfl | rfl
    · exact absurd hd (by decide)
    · exact absurd hd (by decide)
  · simp only [List.mem_singleton] at h
    rcases mapRuns_eq_or lowerRuns c.toNat with hm | ⟨r, hr, hn, hm⟩
    · rw [h, hm, Char.ofNat_toNat]
    · have := not_inert_of_maps (d := d) hr hn (by rw [h, toNat_ofNat_mapRuns, hm])
      simp [this] at hd

theorem isLower_of_mem_lowerOf {c d : Char} (h : d ∈ lowerOf c) : IsLower d := by
  unfold lowerOf at h
  split at h
  · simp only [List.mem_cons, List.not_mem_nil, or_false] at h
    rcases h with rfl | rfl <;> exact ⟨by decide, by decide +kernel⟩
  · rename_i hI
    simp only [List.mem_singleton] at h
    have hdn : d.toNat = mapRuns lowerRuns c.toNat := by rw [h, toNat_ofNat_mapRuns]
    have hfix : mapRuns lowerRuns d.toNat = d.toNat := by
      rw [hdn, mapRuns_lowerRuns_idem]
    have hdI : d ≠ 'İ' := by
      rintro rfl
      rcases mapRuns_eq_or lowerRuns c.toNat with hm | ⟨r, hr, hn, hm⟩
      · rw [hm] at hdn
        exact hI (Char.toNat_inj.1 hdn.symm)
      · have hcl := List.all_eq_true.1 lowerRuns_clear r hr
        simp only [CaseRun.clear, CaseRun.high, Bool.and_eq_true, Bool.or_eq_true, Nat.blt_eq]
          at hcl
        rw [hm, show 'İ'.toNat = 0x130 from rfl] at hdn
        obtain ⟨hf, hl, _⟩ := hn
        omega
    refine ⟨?_, by simp [lowerOf, hdI, hfix, Char.ofNat_toNat]⟩
    rintro rfl
    rw [mapRuns_sigma] at hfix
    revert hfix
    decide

theorem IsLowerForm.ne_nil {c : Char} {b : List Char} (h : IsLowerForm c b) : b ≠ [] := by
  cases h with
  | plain h =>
    unfold lowerOf
    split <;> simp
  | sigma => simp
  | finalSigma => simp

theorem IsLowerForm.eq_of_mem {c d : Char} {b : List Char} (h : IsLowerForm c b) (hd : d ∈ b)
    (hi : isInert d = true) : d = c := by
  cases h with
  | plain h => exact eq_of_mem_lowerOf hd hi
  | sigma =>
    obtain rfl := List.mem_singleton.1 hd
    exact absurd hi (by decide)
  | finalSigma =>
    obtain rfl := List.mem_singleton.1 hd
    exact absurd hi (by decide)

theorem IsLowerForm.eq_of_inert {c : Char} {b : List Char} (h : IsLowerForm c b)
    (hi : isInert c = true) : b = [c] := by
  cases h with
  | plain h => exact lowerOf_of_inert hi
  | sigma => exact absurd hi (by decide)
  | finalSigma => exact absurd hi (by decide)

theorem IsLowerForm.isLower {c d : Char} {b : List Char} (h : IsLowerForm c b) (hd : d ∈ b) :
    IsLower d := by
  cases h with
  | plain h => exact isLower_of_mem_lowerOf hd
  | sigma =>
    obtain rfl := List.mem_singleton.1 hd
    exact ⟨by decide, by decide +kernel⟩
  | finalSigma =>
    obtain rfl := List.mem_singleton.1 hd
    exact ⟨by decide, by decide +kernel⟩

/-! ## Whole texts -/

/-- The second text arises from the first by putting a lower-case form for each character. -/
inductive Lowering : List Char → List Char → Prop
  | nil : Lowering [] []
  | cons {c : Char} {b s t : List Char} (h : IsLowerForm c b) (hs : Lowering s t) :
      Lowering (c :: s) (b ++ t)

theorem lowering_lowerAfter (afterCased : Bool) (s : List Char) :
    Lowering s (lowerAfter afterCased s) := by
  induction s generalizing afterCased with
  | nil => exact .nil
  | cons c s ih =>
    refine .cons ?_ (ih _)
    split
    · rename_i h
      subst h
      split
      · exact .finalSigma
      · exact .sigma
    · exact .plain (by assumption)

theorem lowering_lower (s : List Char) : Lowering s (lower s) :=
  lowering_lowerAfter false s

theorem Lowering.of_append {s s' t : List Char} (h : Lowering (s ++ s') t) :
    ∃ u v, t = u ++ v ∧ Lowering s u ∧ Lowering s' v := by
  induction s generalizing t with
  | nil => exact ⟨[], t, rfl, .nil, h⟩
  | cons c s ih =>
    rw [List.cons_append] at h
    cases h with
    | cons hc hs =>
      obtain ⟨u, v, rfl, hu, hv⟩ := ih hs
      exact ⟨_, v, (List.append_assoc ..).symm, .cons hc hu, hv⟩

theorem Lowering.of_append_cons {s s' t : List Char} {x : Char} (h : Lowering (s ++ x :: s') t)
    (hx : isInert x = true) : ∃ u v, t = u ++ x :: v ∧ Lowering s u ∧ Lowering s' v := by
  obtain ⟨u, w, rfl, hu, hw⟩ := h.of_append
  cases hw with
  | cons hc hs =>
    rw [hc.eq_of_inert hx]
    exact ⟨u, _, rfl, hu, hs⟩

theorem Lowering.isLower {s t : List Char} (h : Lowering s t) : ∀ d ∈ t, IsLower d := by
  induction h with
  | nil => simp
  | cons hc _ ih =>
    intro d hd
    rcases List.mem_append.1 hd with hd | hd
    · exact hc.isLower hd
    · exact ih d hd

theorem Lowering.mem_iff {s t : List Char} (h : Lowering s t) {x : Char}
    (hx : isInert x = true) : x ∈ t ↔ x ∈ s := by
  induction h with
  | nil => simp
  | cons hc _ ih =>
    rw [List.mem_append, List.mem_cons, ih]
    constructor
    · rintro (hd | hd)
      · exact .inl (hc.eq_of_mem hd hx)
      · exact .inr hd
    · rintro (rfl | hd)
      · exact .inl (by rw [hc.eq_of_inert hx]; simp)
      · exact .inr hd

theorem Lowering.eq_nil_iff {s t : List Char} (h : Lowering s t) : t = [] ↔ s = [] := by
  cases h with
  | nil => simp
  | cons hc _ => simp [hc.ne_nil]

theorem isInert_of_isBlank {c : Char} (h : isBlank c = true) : isInert c = true := by
  simp [isInert, h]

theorem IsLowerForm.not_blank {c d : Char} {b : List Char} (h : IsLowerForm c b)
    (hc : isBlank c = false) (hd : d ∈ b) : isBlank d = false := by
  rw [← Bool.not_eq_true]
  intro hb
  obtain rfl := h.eq_of_mem hd (isInert_of_isBlank hb)
  simp [hc] at hb

theorem Lowering.trim_eq {s t : List Char} (h : Lowering s t) (hs : trim s = s) : trim t = t := by
  obtain ⟨hh, hl⟩ := trim_eq_self_iff.1 hs
  refine trim_eq_self_iff.2 ⟨?_, ?_⟩
  · cases h with
    | nil => simp
    | cons hc _ =>
      obtain ⟨e, r, rfl⟩ := List.exists_cons_of_ne_nil hc.ne_nil
      simpa using hc.not_blank (hh _ (by simp)) (List.mem_cons_self)
  · rcases List.eq_nil_or_concat s with rfl | ⟨s', c, rfl⟩
    · simp [h.eq_nil_iff.2 rfl]
    · rw [List.concat_eq_append] at h hl
      obtain ⟨u, v, rfl, _, hv⟩ := h.of_append
      cases hv with
      | cons hc hn =>
        cases hn with
        | nil =>
          intro d hd
          rw [List.append_nil, List.getLast?_append,
            List.getLast?_eq_some_getLast hc.ne_nil] at hd
          obtain rfl : _ = d := by simpa using hd
          exact hc.not_blank (hl c (by simp)) (List.getLast_mem hc.ne_nil)

theorem lowerAfter_of_isLower {t : List Char} (h : ∀ d ∈ t, IsLower d) (afterCased : Bool) :
    lowerAfter afterCased t = t := by
  induction t generalizing afterCased with
  | nil => rfl
  | cons c t ih =>
    obtain ⟨h1, h2⟩ := h c (by simp)
    simp [lowerAfter, h1, h2, ih fun d hd => h d (by simp [hd])]

theorem Lowering.lower_eq {s t : List Char} (h : Lowering s t) : lower t = t :=
  lowerAfter_of_isLower h.isLower false

theorem lower_eq_self_iff {s : List Char} : lower s = s ↔ ∀ c ∈ s, IsLower c := by
  constructor
  · intro h
    have hs := (lowering_lower s).isLower
    rwa [h] at hs
  · intro h
    exact lowerAfter_of_isLower h false

@[simp] theorem lower_lower (s : List Char) : lower (lower s) = lower s :=
  (lowering_lower s).lower_eq

@[simp] theorem lower_eq_nil_iff {s : List Char} : lower s = [] ↔ s = [] :=
  (lowering_lower s).eq_nil_iff

theorem mem_lower_iff {s : List Char} {x : Char} (hx : isInert x = true) : x ∈ lower s ↔ x ∈ s :=
  (lowering_lower s).mem_iff hx

theorem not_blank_lower_iff {s : List Char} :
    (∀ c ∈ lower s, isBlank c = false) ↔ ∀ c ∈ s, isBlank c = false := by
  simp only [← Bool.not_eq_true]
  constructor
  · exact fun h c hc hb => h c ((mem_lower_iff (isInert_of_isBlank hb)).2 hc) hb
  · exact fun h c hc hb => h c ((mem_lower_iff (isInert_of_isBlank hb)).1 hc) hb

@[simp] theorem trim_lower_trim (s : List Char) : trim (lower (trim s)) = lower (trim s) :=
  (lowering_lower _).trim_eq (trim_trim s)

end AccessGovernance.Text
