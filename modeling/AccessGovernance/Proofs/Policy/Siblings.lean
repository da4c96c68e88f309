import AccessGovernance.Proofs.Policy.GroupIds

/-! # Policies with children

Children of one policy must have different names, and it does not matter in which order they are
given: they are listed by ascending name, each once, and every child is found under whatever text
has its name as canonical form.
-/

namespace AccessGovernance

open Std

namespace Policy

theorem firstRepeated?_append_cons {seen before after : List String} {name : String}
    (hbefore : firstRepeated? seen before = none) (h : name ∈ before ∨ name ∈ seen) :
    firstRepeated? seen (before ++ name :: after) = some name := by
  induction before generalizing seen with
  | nil => rw [List.nil_append, firstRepeated?, if_pos (h.resolve_left List.not_mem_nil)]
  | cons n before ih =>
    rw [firstRepeated?] at hbefore
    split at hbefore
    · cases hbefore
    · rename_i hn
      rw [List.cons_append, firstRepeated?, if_neg hn]
      apply ih hbefore
      rwa [List.mem_cons, or_assoc, or_left_comm, ← List.mem_cons] at h

theorem exists_of_firstRepeated? {seen names : List String} {name : String}
    (h : firstRepeated? seen names = some name) : ∃ before after, names = before ++ name :: after ∧
      firstRepeated? seen before = none ∧ (name ∈ before ∨ name ∈ seen) := by
  induction names generalizing seen with
  | nil => cases h
  | cons n rest ih =>
    rw [firstRepeated?] at h
    split at h
    · rename_i hn
      obtain rfl := Option.some.inj h
      exact ⟨[], rest, rfl, rfl, .inr hn⟩
    · rename_i hn
      obtain ⟨before, after, rfl, hbefore, hrepeats⟩ := ih h
      refine ⟨n :: before, after, rfl, ?_, ?_⟩
      · rw [firstRepeated?, if_neg hn, hbefore]
      · rwa [List.mem_cons, or_assoc, or_left_comm, ← List.mem_cons]

theorem firstRepeated?_nil_eq_none_iff {names : List String} :
    firstRepeated? [] names = none ↔ names.Nodup := by
  rw [firstRepeated?_eq_none_iff]
  exact and_iff_left fun _ _ => List.not_mem_nil

theorem firstRepeated?_nil_eq_some_iff {names : List String} {name : String} :
    firstRepeated? [] names = some name ↔
      ∃ before after, names = before ++ name :: after ∧ before.Nodup ∧ name ∈ before := by
  constructor
  · intro h
    obtain ⟨before, after, hnames, hbefore, hrepeats⟩ := exists_of_firstRepeated? h
    exact ⟨before, after, hnames, firstRepeated?_nil_eq_none_iff.mp hbefore,
      hrepeats.resolve_right List.not_mem_nil⟩
  · rintro ⟨before, after, rfl, hnodup, hrepeats⟩
    exact firstRepeated?_append_cons (firstRepeated?_nil_eq_none_iff.mpr hnodup) (.inl hrepeats)

theorem isNamed_of_isMadeUnder {h : Header} {raw : String} (hmade : h.IsMadeUnder raw) :
    isNamed h.name.text raw = true :=
  isNamed_iff.mpr (Name.canonical_of_ofText hmade.ofText_name)

theorem isNamed_text (n : Name) : isNamed n.text n.text = true :=
  (isNamed_label_iff (l := n.label)).mpr rfl

/-! ## Children of any level -/

section Children

variable {α β γ : Type} {level : PolicyLevel} {header : α → Header}

def nameUnder (header : α → Header) (a : α) : String :=
  (header a).name.text

/-- The children by name with what they make, unless two of them have one name. -/
def gather (level : PolicyLevel) (header : α → Header)
    (build : Ascending (compareOn (nameUnder header)) → β) (given : List α) :
    Except PolicyError β :=
  match firstRepeated? [] (given.map (nameUnder header)) with
  | some name => .error (.duplicateName level name)
  | none => .ok (build (.ofList given))

variable {build : Ascending (compareOn (nameUnder header)) → β} {given given' : List α} {b : β}

theorem gather_eq_ok_iff :
    gather level header build given = .ok b ↔
      (given.map (nameUnder header)).Nodup ∧ b = build (.ofList given) := by
  rw [← firstRepeated?_nil_eq_none_iff, gather]
  cases firstRepeated? [] (given.map (nameUnder header)) with
  | some name => simp
  | none => simp [eq_comm]

theorem gather_eq_error_iff {e : PolicyError} :
    gather level header build given = .error e ↔ ∃ before a after, given = before ++ a :: after ∧
      (before.map (nameUnder header)).Nodup ∧ nameUnder header a ∈ before.map (nameUnder header) ∧
        e = .duplicateName level (nameUnder header a) := by
  have hsome : gather level header build given = .error e ↔ ∃ name,
      firstRepeated? [] (given.map (nameUnder header)) = some name ∧
        e = .duplicateName level name := by
    rw [gather]
    cases firstRepeated? [] (given.map (nameUnder header)) <;> simp [eq_comm]
  rw [hsome]
  simp only [firstRepeated?_nil_eq_some_iff]
  constructor
  · rintro ⟨name, ⟨before, after, hnames, hnodup, hrepeats⟩, rfl⟩
    obtain ⟨first, others, rfl, rfl, hothers⟩ := List.map_eq_append_iff.mp hnames
    obtain ⟨a, last, rfl, rfl, -⟩ := List.map_eq_cons_iff.mp hothers
    exact ⟨first, a, last, rfl, hnodup, hrepeats, rfl⟩
  · rintro ⟨before, a, after, rfl, hnodup, hrepeats, rfl⟩
    exact ⟨_, ⟨_, after.map (nameUnder header), by simp, hnodup, hrepeats⟩, rfl⟩

theorem ofList_perm (h : (given.map (nameUnder header)).Nodup) :
    (Ascending.ofList given : Ascending (compareOn (nameUnder header))).toList.Perm given := by
  apply Ascending.toList_ofList_perm
  refine (List.pairwise_map.mp h).imp fun {a a'} hne heq => hne ?_
  have hcompare : compare (nameUnder header a') (nameUnder header a) = .eq := heq
  exact (LawfulEqCmp.eq_of_compare hcompare).symm

theorem ofList_eq_of_perm (h : (given.map (nameUnder header)).Nodup) (hperm : given.Perm given') :
    (Ascending.ofList given : Ascending (compareOn (nameUnder header))) = .ofList given' := by
  have h' : (given'.map (nameUnder header)).Nodup := (hperm.map _).nodup_iff.mp h
  apply Ascending.eq_of_mem_iff
  intro a
  rw [Ascending.mem_iff, Ascending.mem_iff, (ofList_perm h).mem_iff, (ofList_perm h').mem_iff,
    hperm.mem_iff]

/-- The children are listed by ascending name, and a text finds the one whose name it has as
canonical form. What is listed and found of a child is its `node`. -/
structure IsIndex (header : α → Header) (node : α → γ) (given : List α) (listed : List γ)
    (find : String → Option γ) : Prop where
  listed_eq : ∃ sorted : List α, sorted.Perm given ∧
    (sorted.map (nameUnder header)).Pairwise (· < ·) ∧ listed = sorted.map node
  find_eq_iff : ∀ text n, find text = some n ↔ ∃ a ∈ given, n = node a ∧
    Text.canonical text.toList = (nameUnder header a).toList
  find_name : ∀ a ∈ given, find (nameUnder header a) = some (node a)
  find_raw : ∀ a ∈ given, ∀ raw, (header a).IsMadeUnder raw → find raw = some (node a)

theorem isIndex_ofList (h : (given.map (nameUnder header)).Nodup) (node : α → γ) :
    let s : Ascending (compareOn (nameUnder header)) := .ofList given
    IsIndex header node given (s.toList.map node) fun text =>
      (s.toList.find? fun a => isNamed (nameUnder header a) text).map node := by
  intro s
  have hperm : s.toList.Perm given := ofList_perm h
  have hfind : ∀ text a, a ∈ given → isNamed (nameUnder header a) text = true →
      (s.toList.find? fun a => isNamed (nameUnder header a) text).map node = some (node a) := by
    intro text a ha hnamed
    have hmem : a ∈ s := hperm.mem_iff.mpr ha
    rw [(Ascending.find?_eq_some_iff fun _ _ => isNamed_unique).mpr ⟨hmem, hnamed⟩]
    rfl
  constructor
  case listed_eq => exact ⟨s.toList, hperm, s.pairwise_name, rfl⟩
  case find_eq_iff =>
    intro text n
    constructor
    · intro hfound
      obtain ⟨a, ha, rfl⟩ := Option.map_eq_some_iff.mp hfound
      obtain ⟨hmem, hnamed⟩ := (Ascending.find?_eq_some_iff fun _ _ => isNamed_unique).mp ha
      exact ⟨a, hperm.mem_iff.mp hmem, rfl, isNamed_iff.mp hnamed⟩
    · rintro ⟨a, ha, rfl, hname⟩
      exact hfind text a ha (isNamed_iff.mpr hname)
  case find_name => exact fun a ha => hfind _ a ha (isNamed_text _)
  case find_raw => exact fun a ha raw hmade => hfind raw a ha (isNamed_of_isMadeUnder hmade)

/-- Children are accepted iff their names differ, and the first that repeats a name is the error. A
policy with these children has an index of them, which their order does not matter for. -/
structure Gathers (level : PolicyLevel) (header : α → Header) (make : List α → Except PolicyError β)
    (node : β → α → γ) (listed : β → List γ) (find : β → String → Option γ) : Prop where
  ok_iff : ∀ given, (∃ b, make given = .ok b) ↔ (given.map (nameUnder header)).Nodup
  error_iff : ∀ given e, make given = .error e ↔ ∃ before a after, given = before ++ a :: after ∧
    (before.map (nameUnder header)).Nodup ∧ nameUnder header a ∈ before.map (nameUnder header) ∧
      e = .duplicateName level (nameUnder header a)
  isIndex : ∀ given b, make given = .ok b → IsIndex header (node b) given (listed b) (find b)
  make_perm : ∀ given given' b, given.Perm given' → make given = .ok b → make given' = .ok b

variable (build) in
theorem gathers_gather (node : β → α → γ) {listed : β → List γ} {find : β → String → Option γ}
    (hlisted : ∀ s, listed (build s) = s.toList.map (node (build s)))
    (hfind : ∀ s, find (build s) = fun text =>
      (s.toList.find? fun a => isNamed (nameUnder header a) text).map (node (build s))) :
    Gathers level header (gather level header build) node listed find where
  ok_iff given := by
    simp only [gather_eq_ok_iff]
    exact ⟨fun ⟨_, h, _⟩ => h, fun h => ⟨_, h, rfl⟩⟩
  error_iff given e := gather_eq_error_iff
  isIndex given b h := by
    obtain ⟨hnodup, rfl⟩ := gather_eq_ok_iff.mp h
    rw [hlisted, hfind]
    exact isIndex_ofList hnodup _
  make_perm given given' b hperm h := by
    obtain ⟨hnodup, rfl⟩ := gather_eq_ok_iff.mp h
    rw [gather_eq_ok_iff, ofList_eq_of_perm hnodup hperm]
    exact ⟨(hperm.map _).nodup_iff.mp hnodup, rfl⟩

end Children

/-! ## Groups of a system and systems of an environment -/

/-- Groups make a system and systems make an environment in the same way, under any header. -/
theorem gathers_make (header : Header) :
    (∀ e : EnvironmentTree, Gathers .group Group.header (SystemTree.make header)
      (fun s => GroupNode.mk ⟨e, s⟩) (fun s => SystemNode.groups ⟨e, s⟩)
      (fun s => SystemNode.group? ⟨e, s⟩)) ∧
    Gathers .system SystemTree.header (EnvironmentTree.make header) SystemNode.mk
      EnvironmentTree.systemNodes EnvironmentTree.system? := by
  refine ⟨fun e => ?_, ?_⟩
  · exact gathers_gather (SystemTree.mk header) (fun s => GroupNode.mk ⟨e, s⟩)
      (fun _ => rfl) (fun _ => rfl)
  · exact gathers_gather (EnvironmentTree.mk header) SystemNode.mk
      (fun _ => rfl) (fun _ => rfl)

end Policy

end AccessGovernance
