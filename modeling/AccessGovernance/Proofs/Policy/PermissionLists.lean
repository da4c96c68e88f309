import AccessGovernance.Policy.Permissions
import Mathlib.Data.List.Chain

/-! # Lists of permissions

A list is read as the union of the permissions that its parts name. A part names a permission in
any case of its letters, where a dotless i and a long s count as letters of the names too, since
their upper-case forms are. The other characters whose upper case is in ASCII become two letters or
more, and these do not follow each other in a name.
-/

namespace AccessGovernance

namespace Text

/-- The two letters outside ASCII whose upper case is one letter of ASCII, as that letter. -/
def asciiOf (c : Char) : Char :=
  if c = 'ı' then 'I' else if c = 'ſ' then 'S' else c

/-- The first two letters of the upper case of a sharp s or a ligature. -/
def ligatures : List (Char × Char) :=
  [('S', 'S'), ('F', 'F'), ('F', 'I'), ('F', 'L'), ('S', 'T')]

/-- Characters of ASCII without the upper case of a sharp s or a ligature. -/
structure IsPlain (name : List Char) : Prop where
  ascii : ∀ x ∈ name, x.toNat < 0x80
  chain : name.IsChain fun x y => (x, y) ∉ ligatures

variable {c x : Char} {name : List Char}

theorem IsPlain.tail (h : IsPlain (x :: name)) : IsPlain name :=
  ⟨fun y hy => h.ascii y (List.mem_cons_of_mem x hy), h.chain.tail⟩

theorem toUpper_of_not_ascii (h : ¬ c.toNat < 0x80) : c.toUpper = c := by
  have hrange : ¬ (c.val ≥ 'a'.val ∧ c.val ≤ 'z'.val) := by
    rintro ⟨-, hle⟩
    have hz : c.toNat ≤ 'z'.toNat := hle
    exact h (Nat.lt_of_le_of_lt hz (by decide))
  exact dif_neg hrange

theorem asciiOf_of_ne (hi : c ≠ 'ı') (hs : c ≠ 'ſ') : asciiOf c = c := by
  rw [asciiOf, if_neg hi, if_neg hs]

theorem ne_of_ascii {d : Char} (h : c.toNat < 0x80) (hd : ¬ d.toNat < 0x80) : c ≠ d := by
  rintro rfl
  exact hd h

/-- How the upper case of a character can be in ASCII: as one letter or as the beginning of a
ligature. -/
theorem asciiUpperOf?_cases (c : Char) :
    asciiUpperOf? c = some [(asciiOf c).toUpper] ∨
    ¬ (asciiOf c).toUpper.toNat < 0x80 ∧
      ∀ u, asciiUpperOf? c = some u → ∃ x y v, u = x :: y :: v ∧ (x, y) ∈ ligatures := by
  by_cases hc : c.toNat < 0x80
  · left
    unfold asciiUpperOf?
    rw [if_pos hc, asciiOf_of_ne (ne_of_ascii hc (by decide)) (ne_of_ascii hc (by decide))]
  by_cases hi : c = 'ı'
  · subst hi
    exact .inl (by decide)
  by_cases hs : c = 'ſ'
  · subst hs
    exact .inl (by decide)
  · right
    rw [asciiOf_of_ne hi hs, toUpper_of_not_ascii hc]
    refine ⟨hc, ?_⟩
    intro u hu
    unfold asciiUpperOf? at hu
    rw [if_neg hc] at hu
    split at hu <;> first
      | contradiction
      | exact ⟨_, _, _, (Option.some.inj hu).symm, by decide⟩

theorem asciiUpper?_eq_some_iff {part : List Char} (h : IsPlain name) :
    asciiUpper? part = some name ↔ (part.map asciiOf).map Char.toUpper = name := by
  induction part generalizing name with
  | nil => simp [asciiUpper?]
  | cons c part ih =>
    rw [asciiUpper?, List.map_cons, List.map_cons]
    rcases asciiUpperOf?_cases c with hone | ⟨hout, hmany⟩
    · rw [hone, Option.bind_some, Option.map_eq_some_iff]
      constructor
      · rintro ⟨v, hv, rfl⟩
        rw [(ih h.tail).mp hv]
        rfl
      · intro heq
        subst heq
        exact ⟨_, (ih h.tail).mpr rfl, rfl⟩
    · -- neither side holds: a name has no ligature in it, and no character outside of ASCII
      constructor
      · intro hbind
        obtain ⟨u, hu, hmap⟩ := Option.bind_eq_some_iff.mp hbind
        obtain ⟨v, -, rfl⟩ := Option.map_eq_some_iff.mp hmap
        obtain ⟨x, y, w, rfl, hxy⟩ := hmany u hu
        exact absurd hxy (List.isChain_cons_cons.mp h.chain).1
      · intro heq
        subst heq
        exact absurd (h.ascii _ List.mem_cons_self) hout

end Text

namespace Permissions

open Text (asciiOf)

variable {p q : Permissions} {part : List Char} {parts : List (List Char)}
  {r : Except PolicyError Permissions}

/-! ## Names -/

/-- The text is the name of `q`, in any case of the letters of ASCII. -/
def IsNamed (q : Permissions) (part : List Char) : Prop :=
  ∃ name, (name, q) ∈ named ∧ part.map Char.toUpper = name.toList

theorem ofName?_eq_some_iff {name : List Char} :
    ofName? name = some q ↔ ∃ n, (n, q) ∈ named ∧ n.toList = name := by
  constructor
  · intro h
    obtain ⟨⟨n, q'⟩, hfind, rfl⟩ := Option.map_eq_some_iff.mp h
    exact ⟨n, List.mem_of_find?_eq_some hfind, by simpa using List.find?_some hfind⟩
  · have hnamed : ∀ n ∈ named, ofName? n.1.toList = some n.2 := by decide
    rintro ⟨n, hn, rfl⟩
    exact hnamed (n, q) hn

theorem isPlain_of_mem_named {n : String} (h : (n, q) ∈ named) : Text.IsPlain n.toList := by
  have hascii : ∀ n ∈ named, n.1.toList.all (fun x => x.toNat < 0x80) = true := by decide
  have hchain : ∀ n ∈ named, n.1.toList.IsChain fun x y => (x, y) ∉ Text.ligatures := by decide
  constructor
  · exact fun x hx => of_decide_eq_true (List.all_eq_true.mp (hascii (n, q) h) x hx)
  · exact hchain (n, q) h

theorem ofListed?_eq_some_iff : ofListed? part = some q ↔ IsNamed q (part.map asciiOf) := by
  rw [ofListed?, Option.bind_eq_some_iff]
  constructor
  · rintro ⟨u, hu, hname⟩
    obtain ⟨n, hn, rfl⟩ := ofName?_eq_some_iff.mp hname
    exact ⟨n, hn, (Text.asciiUpper?_eq_some_iff (isPlain_of_mem_named hn)).mp hu⟩
  · rintro ⟨n, hn, heq⟩
    exact ⟨n.toList, (Text.asciiUpper?_eq_some_iff (isPlain_of_mem_named hn)).mpr heq,
      ofName?_eq_some_iff.mpr ⟨n, hn, rfl⟩⟩

theorem ofListed?_eq_none_iff :
    ofListed? part = none ↔ ∀ q, ¬ IsNamed q (part.map asciiOf) := by
  rw [Option.eq_none_iff_forall_ne_some]
  exact forall_congr' fun q => not_congr ofListed?_eq_some_iff

theorem map_asciiOf (hi : 'ı' ∉ part) (hs : 'ſ' ∉ part) : part.map asciiOf = part := by
  refine (List.map_congr_left fun c hc => ?_).trans (List.map_id part)
  exact Text.asciiOf_of_ne (fun h => hi (h ▸ hc)) fun h => hs (h ▸ hc)

theorem IsNamed.not_mem {c : Char} (h : IsNamed q part) (hc : ¬ c.toUpper.toNat < 0x80) :
    c ∉ part := by
  obtain ⟨n, hn, heq⟩ := h
  intro hmem
  exact hc ((isPlain_of_mem_named hn).ascii _ (heq ▸ List.mem_map_of_mem hmem))

theorem isNamed_iff_isNamed_asciiOf (part : List Char) (q : Permissions) :
    IsNamed q part ↔ IsNamed q (part.map asciiOf) ∧ 'ı' ∉ part ∧ 'ſ' ∉ part := by
  constructor
  · intro h
    have hi : 'ı' ∉ part := h.not_mem (by decide)
    have hs : 'ſ' ∉ part := h.not_mem (by decide)
    exact ⟨(map_asciiOf hi hs).symm ▸ h, hi, hs⟩
  · rintro ⟨h, hi, hs⟩
    exact map_asciiOf hi hs ▸ h

/-! ## Unions -/

theorem eq_of_getLsbD (h : ∀ i, p.bits.getLsbD i = true ↔ q.bits.getLsbD i = true) : p = q :=
  congrArg mk (BitVec.eq_of_getLsbD_eq fun i _ => Bool.eq_iff_iff.mpr (h i))

theorem getLsbD_union {i : Nat} :
    (p ∪ q).bits.getLsbD i = true ↔ p.bits.getLsbD i = true ∨ q.bits.getLsbD i = true := by
  change (p.bits ||| q.bits).getLsbD i = true ↔ _
  rw [BitVec.getLsbD_or, Bool.or_eq_true]

theorem getLsbD_empty {i : Nat} : ¬ empty.bits.getLsbD i = true := by
  change ¬ (0#32).getLsbD i = true
  simp

theorem union_empty (p : Permissions) : p ∪ empty = p :=
  congrArg mk BitVec.or_zero

theorem union_comm (p q : Permissions) : p ∪ q = q ∪ p :=
  congrArg mk (BitVec.or_comm ..)

theorem union_assoc (p q r : Permissions) : p ∪ q ∪ r = p ∪ (q ∪ r) :=
  congrArg mk (BitVec.or_assoc ..)

theorem unionListed_union (parts : List (List Char)) (p q : Permissions) :
    unionListed parts (p ∪ q) = (unionListed parts q).map (p ∪ ·) := by
  induction parts generalizing q with
  | nil => rfl
  | cons part parts ih =>
    rw [unionListed, unionListed]
    cases ofListed? part with
    | none => rfl
    | some q' =>
      change unionListed parts (p ∪ q ∪ q') = (unionListed parts (q ∪ q')).map (p ∪ ·)
      rw [union_assoc, ih]

theorem unionListed_append (parts rest : List (List Char)) (p : Permissions) :
    unionListed (parts ++ rest) p = unionListed parts p >>= unionListed rest := by
  induction parts generalizing p with
  | nil => rfl
  | cons part parts ih =>
    rw [List.cons_append, unionListed, unionListed]
    cases ofListed? part with
    | none => rfl
    | some q => exact ih (p ∪ q)

/-- What a list comes to by its parts: the union of the permissions that they name, or the first of
them that names none. -/
inductive IsReading (parts : List (List Char)) : Except PolicyError Permissions → Prop
  | union {p : Permissions} (hnames : ∀ part ∈ parts, ∃ q, IsNamed q (part.map asciiOf))
      (hp : ∀ i, p.bits.getLsbD i = true ↔
        ∃ part ∈ parts, ∃ q, IsNamed q (part.map asciiOf) ∧ q.bits.getLsbD i = true) :
      IsReading parts (.ok p)
  | invalid (before after : List (List Char)) (part : List Char)
      (hparts : parts = before ++ part :: after)
      (hbefore : ∀ b ∈ before, ∃ q, IsNamed q (b.map asciiOf))
      (hpart : ∀ q, ¬ IsNamed q (part.map asciiOf)) :
      IsReading parts (.error (.invalidPermission (String.ofList part)))

theorem IsNamed.unique (h : IsNamed p (part.map asciiOf)) (h' : IsNamed q (part.map asciiOf)) :
    p = q :=
  Option.some.inj ((ofListed?_eq_some_iff.mpr h).symm.trans (ofListed?_eq_some_iff.mpr h'))

theorem IsReading.cons (hq : IsNamed q (part.map asciiOf)) (h : IsReading parts r) :
    IsReading (part :: parts) (r.map (q ∪ ·)) := by
  cases h with
  | union hnames hp =>
    refine .union (List.forall_mem_cons.mpr ⟨⟨q, hq⟩, hnames⟩) fun i => ?_
    rw [getLsbD_union, hp, List.exists_mem_cons_iff]
    refine or_congr_left ⟨fun hi => ⟨q, hq, hi⟩, ?_⟩
    rintro ⟨q', hq', hi⟩
    exact hq.unique hq' ▸ hi
  | invalid before after first hparts hbefore hfirst =>
    exact .invalid (part :: before) after first (congrArg (part :: ·) hparts)
      (List.forall_mem_cons.mpr ⟨⟨q, hq⟩, hbefore⟩) hfirst

theorem isReading_unionListed (parts : List (List Char)) :
    IsReading parts (unionListed parts empty) := by
  induction parts with
  | nil => exact .union (fun _ h => absurd h List.not_mem_nil) fun i => by simp [getLsbD_empty]
  | cons part parts ih =>
    rw [unionListed]
    cases hpart : ofListed? part with
    | none =>
      exact .invalid [] parts part rfl (fun _ h => absurd h List.not_mem_nil)
        (ofListed?_eq_none_iff.mp hpart)
    | some q =>
      -- what was collected before the rest joins its union, and leaves its error as it is
      have hmap : unionListed parts (empty ∪ q) = (unionListed parts empty).map (q ∪ ·) := by
        rw [union_comm, unionListed_union]
      have hcons := ih.cons (ofListed?_eq_some_iff.mp hpart)
      rwa [← hmap] at hcons

theorem exists_unionListed_eq_ok (h : ∀ part ∈ parts, ∃ q, IsNamed q (part.map asciiOf))
    (p : Permissions) : ∃ p', unionListed parts p = .ok p' := by
  induction parts generalizing p with
  | nil => exact ⟨p, rfl⟩
  | cons part parts ih =>
    obtain ⟨⟨q, hq⟩, hparts⟩ := List.forall_mem_cons.mp h
    rw [unionListed, ofListed?_eq_some_iff.mpr hq]
    exact ih hparts (p ∪ q)

theorem IsReading.unionListed_eq (h : IsReading parts r) : unionListed parts empty = r := by
  cases h with
  | @union p hnames hp =>
    obtain ⟨p', hp'⟩ := exists_unionListed_eq_ok hnames empty
    have hreading := isReading_unionListed parts
    rw [hp'] at hreading ⊢
    cases hreading with
    | union _ hbits => rw [eq_of_getLsbD fun i => (hbits i).trans (hp i).symm]
  | invalid before after part hparts hbefore hpart =>
    obtain ⟨p, hp⟩ := exists_unionListed_eq_ok hbefore empty
    rw [hparts, unionListed_append, hp]
    change unionListed (part :: after) p = _
    rw [unionListed, ofListed?_eq_none_iff.mpr hpart]

theorem ofList_eq_iff {s : String} : ofList s = r ↔ IsReading (listedNames s.toList) r := by
  constructor
  · rintro rfl
    exact isReading_unionListed _
  · exact IsReading.unionListed_eq

theorem listedNames_append (a b : List Char) :
    listedNames (a ++ ',' :: b) = listedNames a ++ listedNames b := by
  rw [listedNames, Text.fields_append_cons, List.map_append, List.filter_append]
  rfl

theorem ofList_append (a b : String) :
    ofList (a ++ "," ++ b) = do return (← ofList a) ∪ (← ofList b) := by
  have htext : (a ++ "," ++ b).toList = a.toList ++ ',' :: b.toList := by
    simp [String.toList_append]
  rw [ofList, htext, listedNames_append, unionListed_append, ofList, ofList]
  cases unionListed (listedNames a.toList) empty with
  | error e => rfl
  | ok p =>
    change unionListed (listedNames b.toList) p = _
    rw [← union_empty p, unionListed_union]
    cases unionListed (listedNames b.toList) empty with
    | error e => rfl
    | ok q => rw [union_empty]; rfl

theorem IsReading.of_mem_iff {parts' : List (List Char)}
    (hmem : ∀ part, part ∈ parts ↔ part ∈ parts') (h : IsReading parts (.ok p)) :
    IsReading parts' (.ok p) := by
  cases h with
  | union hnames hp =>
    refine .union (fun part hpart => hnames part ((hmem part).mpr hpart)) fun i => ?_
    rw [hp]
    exact exists_congr fun part => and_congr_left' (hmem part)

/-- Every list is read as the union of what its parts name, or as its first part that names nothing.
A part names a permission whose name it is up to letter case, and also with a dotless i or a long s
in it. Lists joined by a comma are read one after the other, and in what order and how often the
parts stand in a list does not matter. -/
theorem ofList_reads_names (s : String) :
    (∀ r, ofList s = r ↔ IsReading (listedNames s.toList) r) ∧
    (∀ part q, IsNamed q part ↔ IsNamed q (part.map asciiOf) ∧ 'ı' ∉ part ∧ 'ſ' ∉ part) ∧
    (∀ t, ofList (s ++ "," ++ t) = do return (← ofList s) ∪ (← ofList t)) ∧
    ∀ t, (∀ part, part ∈ listedNames s.toList ↔ part ∈ listedNames t.toList) →
      ∀ p, ofList s = .ok p ↔ ofList t = .ok p := by
  refine ⟨fun r => ofList_eq_iff, isNamed_iff_isNamed_asciiOf, ofList_append s, ?_⟩
  intro t hmem p
  rw [ofList_eq_iff, ofList_eq_iff]
  exact ⟨.of_mem_iff hmem, .of_mem_iff fun part => (hmem part).symm⟩

/-- A text that is no name gives the permission to join. -/
theorem ofList_of_dotless_i :
    ofList "joın" = .ok join ∧ listedNames "joın".toList = ["joın".toList] ∧
      ∀ q, ¬ IsNamed q "joın".toList := by
  refine ⟨by decide, by decide, ?_⟩
  intro q h
  have hnot : 'ı' ∉ "joın".toList := h.not_mem (by decide)
  exact absurd hnot (by decide)

end Permissions

end AccessGovernance
