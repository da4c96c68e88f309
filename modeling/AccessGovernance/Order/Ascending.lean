/-! # Strictly ascending lists

A finite set over a three-way comparison is held as the one list of its elements in strictly
ascending order. Inserting an element that compares equal to one that is present keeps the present
one. The main statements say what a list built from given elements contains, that searching it by
comparison is membership, and that two ascending lists with the same elements are equal.
-/

namespace AccessGovernance

open Std

/-- Inserts before the first greater element, unless an equal one is present. -/
def insertAscending {α : Type u} (cmp : α → α → Ordering) (x : α) : List α → List α
  | [] => [x]
  | y :: rest =>
      match cmp x y with
      | .lt => x :: y :: rest
      | .eq => y :: rest
      | .gt => y :: insertAscending cmp x rest

structure Ascending {α : Type u} (cmp : α → α → Ordering) where
  toList : List α
  ascending : toList.Pairwise fun x y => cmp x y = .lt

variable {α : Type u} {cmp : α → α → Ordering}

theorem mem_of_mem_insertAscending {x y : α} {s : List α} (h : y ∈ insertAscending cmp x s) :
    y = x ∨ y ∈ s := by
  induction s with
  | nil => simpa [insertAscending] using h
  | cons z s ih =>
    simp only [insertAscending] at h
    split at h
    · simpa using h
    · exact .inr h
    · rcases List.mem_cons.1 h with rfl | h
      · simp
      · rcases ih h with rfl | h <;> simp [*]

theorem mem_insertAscending_of_mem {x y : α} {s : List α} (h : y ∈ s) :
    y ∈ insertAscending cmp x s := by
  induction s with
  | nil => simp at h
  | cons z s ih =>
    simp only [insertAscending]
    split
    · exact List.mem_cons_of_mem x h
    · exact h
    · rcases List.mem_cons.1 h with rfl | h
      · simp
      · simp [ih h]

theorem pairwise_insertAscending [TransCmp cmp] {x : α} {s : List α}
    (h : s.Pairwise fun x y => cmp x y = .lt) :
    (insertAscending cmp x s).Pairwise fun x y => cmp x y = .lt := by
  induction s with
  | nil => simp [insertAscending]
  | cons y s ih =>
    obtain ⟨hy, hs⟩ := List.pairwise_cons.1 h
    simp only [insertAscending]
    split
    · rename_i hlt
      refine List.pairwise_cons.2 ⟨?_, h⟩
      intro z hz
      rcases List.mem_cons.1 hz with rfl | hz
      · exact hlt
      · exact TransCmp.lt_trans hlt (hy z hz)
    · exact h
    · rename_i hgt
      refine List.pairwise_cons.2 ⟨?_, ih hs⟩
      intro z hz
      rcases mem_of_mem_insertAscending hz with rfl | hz
      · exact OrientedCmp.lt_of_gt hgt
      · exact hy z hz

theorem insertAscending_perm {x : α} {s : List α} (h : ∀ y ∈ s, cmp x y ≠ .eq) :
    (insertAscending cmp x s).Perm (x :: s) := by
  induction s with
  | nil => exact .refl _
  | cons y s ih =>
    rw [insertAscending]
    split
    · exact .refl _
    · rename_i heq
      exact absurd heq (h y List.mem_cons_self)
    · have hs : (insertAscending cmp x s).Perm (x :: s) :=
        ih fun z hz => h z (List.mem_cons_of_mem y hz)
      exact (hs.cons y).trans (.swap x y s)

theorem mem_insertAscending_self [LawfulEqCmp cmp] {x : α} {s : List α} :
    x ∈ insertAscending cmp x s := by
  induction s with
  | nil => simp [insertAscending]
  | cons y s ih =>
    simp only [insertAscending]
    split
    · simp
    · rename_i h
      simp [LawfulEqCmp.eq_of_compare h]
    · simp [ih]

namespace Ascending

def empty : Ascending cmp :=
  ⟨[], .nil⟩

def insert [TransCmp cmp] (s : Ascending cmp) (x : α) : Ascending cmp :=
  ⟨insertAscending cmp x s.toList, pairwise_insertAscending s.ascending⟩

/-- The set of the given elements; of elements that compare equal it has the first. -/
def ofList [TransCmp cmp] (xs : List α) : Ascending cmp :=
  xs.foldl insert empty

instance : Membership α (Ascending cmp) :=
  ⟨fun s x => x ∈ s.toList⟩

def find? (s : Ascending cmp) (x : α) : Option α :=
  s.toList.find? fun y => cmp x y == .eq

def contains (s : Ascending cmp) (x : α) : Bool :=
  s.toList.any fun y => cmp x y == .eq

theorem mem_iff {s : Ascending cmp} {x : α} : x ∈ s ↔ x ∈ s.toList :=
  Iff.rfl

theorem contains_iff [LawfulEqCmp cmp] {s : Ascending cmp} {x : α} :
    s.contains x = true ↔ x ∈ s := by
  simp only [contains, List.any_eq_true, beq_iff_eq]
  constructor
  · rintro ⟨y, hy, h⟩
    exact LawfulEqCmp.eq_of_compare h ▸ hy
  · intro h
    exact ⟨x, h, ReflCmp.compare_self⟩

@[simp] theorem mem_insert [TransCmp cmp] [LawfulEqCmp cmp] {s : Ascending cmp} {x y : α} :
    y ∈ s.insert x ↔ y = x ∨ y ∈ s := by
  constructor
  · exact mem_of_mem_insertAscending
  · rintro (rfl | h)
    · exact mem_insertAscending_self
    · exact mem_insertAscending_of_mem h

theorem not_mem_empty {x : α} : ¬ x ∈ (empty : Ascending cmp) :=
  List.not_mem_nil

theorem mem_foldl_insert [TransCmp cmp] [LawfulEqCmp cmp] {xs : List α} {s : Ascending cmp}
    {x : α} : x ∈ xs.foldl insert s ↔ x ∈ xs ∨ x ∈ s := by
  induction xs generalizing s with
  | nil => simp
  | cons y xs ih =>
    rw [List.foldl_cons, ih, mem_insert, List.mem_cons]
    constructor
    · rintro (h | h | h) <;> simp [h]
    · rintro ((h | h) | h) <;> simp [h]

@[simp] theorem mem_ofList [TransCmp cmp] [LawfulEqCmp cmp] {xs : List α} {x : α} :
    x ∈ (ofList xs : Ascending cmp) ↔ x ∈ xs := by
  rw [ofList, mem_foldl_insert]
  exact or_iff_left not_mem_empty

theorem foldl_insert_perm [TransCmp cmp] {xs : List α} {s : Ascending cmp}
    (hxs : xs.Pairwise fun x y => cmp y x ≠ .eq) (hs : ∀ x ∈ xs, ∀ y ∈ s, cmp x y ≠ .eq) :
    (xs.foldl insert s).toList.Perm (xs ++ s.toList) := by
  induction xs generalizing s with
  | nil => exact .refl _
  | cons x xs ih =>
    obtain ⟨hx, hrest⟩ := List.pairwise_cons.1 hxs
    have hinserted : ∀ z ∈ xs, ∀ y ∈ s.insert x, cmp z y ≠ .eq := by
      intro z hz y hy
      rcases mem_of_mem_insertAscending hy with rfl | hy
      · exact hx z hz
      · exact hs z (List.mem_cons_of_mem x hz) y hy
    have hhead : (s.insert x).toList.Perm (x :: s.toList) :=
      insertAscending_perm (hs x List.mem_cons_self)
    exact (ih hrest hinserted).trans ((hhead.append_left xs).trans List.perm_middle)

/-- Elements of which no two compare equal are all kept. -/
theorem toList_ofList_perm [TransCmp cmp] {xs : List α}
    (h : xs.Pairwise fun x y => cmp y x ≠ .eq) : (ofList xs : Ascending cmp).toList.Perm xs := by
  have hperm := foldl_insert_perm (s := (empty : Ascending cmp)) h
    fun _ _ _ hy => absurd hy not_mem_empty
  rwa [show (empty : Ascending cmp).toList = [] from rfl, List.append_nil] at hperm

theorem eq_of_toList_eq {s t : Ascending cmp} (h : s.toList = t.toList) : s = t := by
  cases s
  cases t
  simp_all

theorem not_lt_self [OrientedCmp cmp] (x : α) : ¬ cmp x x = .lt := by
  have h : cmp x x = .eq := ReflCmp.compare_self
  simp [h]

theorem nodup_toList [OrientedCmp cmp] (s : Ascending cmp) : s.toList.Nodup := by
  refine s.ascending.imp fun {x y} hlt heq => ?_
  subst heq
  exact not_lt_self x hlt

theorem list_eq_of_mem_iff [TransCmp cmp] {s t : List α}
    (hs : s.Pairwise fun x y => cmp x y = .lt) (ht : t.Pairwise fun x y => cmp x y = .lt)
    (h : ∀ x, x ∈ s ↔ x ∈ t) : s = t := by
  induction s generalizing t with
  | nil =>
    cases t with
    | nil => rfl
    | cons y t => exact absurd ((h y).2 (by simp)) (by simp)
  | cons x s ih =>
    cases t with
    | nil => exact absurd ((h x).1 (by simp)) (by simp)
    | cons y t =>
      obtain ⟨hx, hs'⟩ := List.pairwise_cons.1 hs
      obtain ⟨hy, ht'⟩ := List.pairwise_cons.1 ht
      have hxy : x = y := by
        rcases List.mem_cons.1 ((h x).1 (by simp)) with h1 | h1
        · exact h1
        · rcases List.mem_cons.1 ((h y).2 (by simp)) with h2 | h2
          · exact h2.symm
          · exact absurd (TransCmp.lt_trans (hx y h2) (hy x h1)) (not_lt_self x)
      subst hxy
      congr 1
      refine ih hs' ht' fun z => ?_
      constructor
      · intro hz
        rcases List.mem_cons.1 ((h z).1 (List.mem_cons_of_mem x hz)) with rfl | h1
        · exact absurd (hx z hz) (not_lt_self z)
        · exact h1
      · intro hz
        rcases List.mem_cons.1 ((h z).2 (List.mem_cons_of_mem x hz)) with rfl | h1
        · exact absurd (hy z hz) (not_lt_self z)
        · exact h1

theorem eq_of_mem_iff [TransCmp cmp] {s t : Ascending cmp} (h : ∀ x, x ∈ s ↔ x ∈ t) : s = t :=
  eq_of_toList_eq (list_eq_of_mem_iff s.ascending t.ascending h)

end Ascending

end AccessGovernance
