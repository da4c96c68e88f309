import AccessGovernance.Settings.Merging
import AccessGovernance.Text.LowerCase.Forms
import Mathlib.Data.List.TakeWhile

/-! # What is relied on in libraries for settings

Of a library it is relied on that a variable with the name of a key takes the place of what the key
has otherwise, and that texts and counts are converted to themselves. The library that merges tables
does what is relied on.
-/

namespace AccessGovernance

namespace SettingKey

def isNameChar (c : Char) : Bool :=
  c.isLower || c = '_'

/-- Both names of a key consist of such characters. -/
def ConsistsOf (k : SettingKey) (p : Char → Bool) : Prop :=
  (k.part ≠ "" ∧ k.part.toList.all p = true) ∧ k.name ≠ "" ∧ k.name.toList.all p = true

instance (k : SettingKey) (p : Char → Bool) : Decidable (k.ConsistsOf p) :=
  inferInstanceAs (Decidable (_ ∧ _))

/-- A variable has the name of the key behind a start of ASCII characters, in any case. -/
def IsNamed (k : SettingKey) (start name : String) : Prop :=
  start.toList.all (fun c => c.toNat < 0x80) = true ∧
    name.toList.map Char.toLower = start.toList.map Char.toLower ++
      ('_' :: '_' :: (k.part.toList ++ '_' :: '_' :: k.name.toList))

instance (k : SettingKey) (start name : String) : Decidable (k.IsNamed start name) :=
  inferInstanceAs (Decidable (_ ∧ _))

end SettingKey

namespace SettingValue

def isScalar : SettingValue → Bool
  | null | list _ | table _ => false
  | _ => true

/-- A key with names in lower case, and a value that has no parts. -/
def IsPlain (v : SettingKey × SettingValue) : Prop :=
  v.1.ConsistsOf SettingKey.isNameChar ∧ v.2.isScalar = true

/-- The value of a key in a tree. -/
def at? (root : SettingValue) (k : SettingKey) : Option SettingValue :=
  (root.get? k.part).bind (get? k.name)

end SettingValue

/-- What is documented of a library: a variable with the name of a key takes the place of the value
that the key has otherwise, and is read as a boolean or a number if it can be. -/
structure SettingsLibrary.IsDocumented (lib : SettingsLibrary) : Prop where
  build_variable : ∀ (values : List (SettingKey × SettingValue)) (start : String) (k : SettingKey)
    (name text : String), (∀ v ∈ values, SettingValue.IsPlain v) → (values.map Prod.fst).Nodup →
    k.ConsistsOf Char.isLower → k.IsNamed start name →
    ∃ root, lib.build (values.map fun v => (v.1.path, v.2)) none ⟨start, "__"⟩ [(name, text)] =
        .ok root ∧ root.at? k = some (.ofUntyped text) ∧
      ∀ v ∈ values, v.1 ≠ k → root.at? v.1 = some v.2
  toText?_string : ∀ s, lib.toText? (.string s) = some s
  toCount?_integer : ∀ n : Nat, n < 0x10000000000000000 → lib.toCount? (.integer n) = some n

/-! ## Names -/

namespace SettingKey

variable {k : SettingKey} {s : String}

theorem isNameChar_of_isLower {c : Char} (h : c.isLower = true) : isNameChar c = true := by
  simp [isNameChar, h]

theorem ConsistsOf.mono {p q : Char → Bool} (h : k.ConsistsOf p)
    (hpq : ∀ c, p c = true → q c = true) : k.ConsistsOf q := by
  obtain ⟨⟨hpart, hpart'⟩, hname, hname'⟩ := h
  rw [List.all_eq_true] at hpart' hname'
  exact ⟨⟨hpart, List.all_eq_true.mpr fun c hc => hpq c (hpart' c hc)⟩, hname,
    List.all_eq_true.mpr fun c hc => hpq c (hname' c hc)⟩

theorem not_mem_of_all {p : Char → Bool} {cs : List Char} {c : Char} (h : cs.all p = true)
    (hc : p c = false) : c ∉ cs := by
  intro hmem
  rw [List.all_eq_true.mp h c hmem] at hc
  cases hc

theorem toNat_lt_of_isNameChar {c : Char} (h : isNameChar c = true) : c.toNat < 0x80 := by
  rw [isNameChar, Bool.or_eq_true, decide_eq_true_eq] at h
  rcases h with h | rfl
  · obtain ⟨-, h⟩ := Bool.and_eq_true_iff.mp h
    exact Nat.lt_of_le_of_lt (of_decide_eq_true h) (by decide)
  · decide

theorem toLower_of_isNameChar {c : Char} (h : isNameChar c = true) : c.toLower = c :=
  Text.forall_of_ascii (p := fun c => isNameChar c = true → c.toLower = c) (by decide +kernel)
    (toNat_lt_of_isNameChar h) h

theorem lower_eq_self (h : s.toList.all isNameChar = true) : Text.lower s.toList = s.toList := by
  rw [List.all_eq_true] at h
  rw [Text.lower_of_ascii fun c hc => toNat_lt_of_isNameChar (h c hc),
    List.map_congr_left fun c hc => toLower_of_isNameChar (h c hc), List.map_id']

theorem canonicalKey_eq_self (h : s.toList.all isNameChar = true) :
    SettingValue.canonicalKey s = s := by
  rw [SettingValue.canonicalKey, lower_eq_self h, String.ofList_toList]

theorem namedSteps?_eq (hne : s ≠ "") (h : s.toList.all isNameChar = true) :
    SettingValue.namedSteps? s.toList = some [.key s] := by
  have hpart : ∀ c ∈ s.toList, SettingValue.isNamePart c = true := by
    intro c hc
    have hname := List.all_eq_true.mp h c hc
    simp only [isNameChar, Bool.or_eq_true, decide_eq_true_eq] at hname
    rcases hname with hlower | rfl
    · have halphanum : c.isAlphanum = true := by
        change (c.isUpper || c.isLower || c.isDigit) = true
        rw [hlower, Bool.or_true, Bool.true_or]
      simp [SettingValue.isNamePart, halphanum]
    · rfl
  have htake : s.toList.takeWhile SettingValue.isNamePart = s.toList :=
    List.takeWhile_eq_self_iff.mpr hpart
  have hdrop : s.toList.dropWhile SettingValue.isNamePart = [] :=
    List.dropWhile_eq_nil_iff.mpr hpart
  have hne' : s.toList ≠ [] := fun hnil => hne (String.toList_eq_nil_iff.mp hnil)
  simp [SettingValue.namedSteps?, htake, hdrop, Text.fields, hne', String.ofList_toList]

theorem stepsOfKey_path (h : k.ConsistsOf isNameChar) :
    SettingValue.stepsOfKey k.path = [.key k.part, .key k.name] := by
  have hpath : k.path.toList = k.part.toList ++ '.' :: k.name.toList := by
    simp [path, String.toList_append]
  have hfields : Text.fields '.' k.path.toList = [k.part.toList, k.name.toList] := by
    rw [hpath, Text.fields_append (not_mem_of_all h.1.2 (by decide)),
      Text.fields_of_not_mem (not_mem_of_all h.2.2 (by decide))]
  simp [SettingValue.stepsOfKey, hfields, namedSteps?_eq h.1.1 h.1.2, namedSteps?_eq h.2.1 h.2.2]

theorem stepsOfKey_part (h : k.ConsistsOf isNameChar) :
    SettingValue.stepsOfKey k.part = [.key k.part] := by
  have hdot : '.' ∉ k.part.toList := not_mem_of_all h.1.2 (by decide)
  simp [SettingValue.stepsOfKey, Text.fields_of_not_mem hdot, namedSteps?_eq h.1.1 h.1.2]

theorem dotted_append {cs : List Char} (h : cs.all Char.isLower = true) (rest : List Char) :
    SettingValue.dotted ['_', '_'] (cs ++ rest) = cs ++ SettingValue.dotted ['_', '_'] rest := by
  induction cs with
  | nil => rfl
  | cons c cs ih =>
    obtain ⟨hc, hcs⟩ := Bool.and_eq_true_iff.mp h
    have hne : '_' ≠ c := by
      rintro rfl
      cases hc
    rw [List.cons_append, SettingValue.dotted, if_neg, ih hcs, List.cons_append]
    simp [List.isPrefixOf, hne]

theorem dotted_eq (h : k.ConsistsOf Char.isLower) :
    SettingValue.dotted ['_', '_'] (k.part.toList ++ '_' :: '_' :: k.name.toList) =
      k.path.toList := by
  have hend : SettingValue.dotted ['_', '_'] k.name.toList = k.name.toList := by
    have happend := dotted_append h.2.2 []
    rwa [SettingValue.dotted, List.append_nil] at happend
  have hseparator : SettingValue.dotted ['_', '_'] ('_' :: '_' :: k.name.toList) =
      '.' :: k.name.toList := by
    rw [SettingValue.dotted, if_pos ⟨List.cons_ne_nil _ _, by simp [List.isPrefixOf]⟩]
    exact congrArg ('.' :: ·) hend
  rw [dotted_append h.1.2, hseparator]
  simp [path, String.toList_append]

theorem IsNamed.toNat_lt_of_mem_start {start name : String} (h : k.IsNamed start name) :
    ∀ c ∈ start.toList, c.toNat < 0x80 := by
  intro c hc
  exact of_decide_eq_true (List.all_eq_true.mp h.1 c hc)

theorem IsNamed.toNat_lt {start name : String} (hk : k.ConsistsOf Char.isLower)
    (h : k.IsNamed start name) : ∀ c ∈ name.toList, c.toNat < 0x80 := by
  have hletters : ∀ {s : String}, s.toList.all Char.isLower = true →
      ∀ c ∈ s.toList, c.toNat < 0x80 := by
    intro s hs c hc
    exact toNat_lt_of_isNameChar (isNameChar_of_isLower (List.all_eq_true.mp hs c hc))
  have hlower : ∀ c ∈ start.toList.map Char.toLower, c.toNat < 0x80 := by
    intro c hc
    obtain ⟨d, hd, rfl⟩ := List.mem_map.mp hc
    exact Text.toNat_toLower_lt (h.toNat_lt_of_mem_start d hd)
  have hall : ∀ c ∈ name.toList.map Char.toLower, c.toNat < 0x80 := by
    rw [h.2]
    simp only [List.forall_mem_append, List.forall_mem_cons]
    exact ⟨hlower, by decide, by decide, hletters hk.1.2, by decide, by decide, hletters hk.2.2⟩
  intro c hc
  exact Text.toNat_lt_of_toLower (hall c.toLower (List.mem_map_of_mem hc))

theorem keyOfVariable?_eq {start name : String} (h : k.ConsistsOf Char.isLower)
    (hnamed : k.IsNamed start name) :
    SettingValue.keyOfVariable? ⟨start, "__"⟩ name = some k.path := by
  have hunderscores : "__".toList = ['_', '_'] := by decide
  have hascii : ∀ c ∈ start.toList ++ ['_', '_'], c.toNat < 0x80 := by
    simp only [List.forall_mem_append, List.forall_mem_cons]
    exact ⟨hnamed.toNat_lt_of_mem_start, by decide, by decide, List.forall_mem_nil _⟩
  have hstart : Text.lower (start ++ "__").toList =
      start.toList.map Char.toLower ++ ['_', '_'] := by
    rw [String.toList_append, hunderscores, Text.lower_of_ascii hascii, List.map_append]
    rfl
  have hname : Text.lower name.toList = start.toList.map Char.toLower ++ ['_', '_'] ++
      (k.part.toList ++ '_' :: '_' :: k.name.toList) := by
    rw [Text.lower_of_ascii (hnamed.toNat_lt h), hnamed.2, List.append_assoc]
    rfl
  rw [SettingValue.keyOfVariable?, hstart, hname, if_pos (by simp), List.drop_left]
  simp only [hunderscores, dotted_eq h, String.ofList_toList]

end SettingKey

/-! ## Trees -/

namespace SettingValue

variable {root v : SettingValue} {k k' : SettingKey}

theorem lookup_putEntry (key : String) (value : SettingValue)
    (es : List (String × SettingValue)) (key' : String) :
    (putEntry key value es).lookup key' = if key' = key then some value else es.lookup key' := by
  induction es with
  | nil => exact Json.lookup_cons_eq_ite (key, value) [] key'
  | cons e es ih =>
    rw [putEntry]
    split
    · rename_i he
      rw [Json.lookup_cons_eq_ite, Json.lookup_cons_eq_ite, he]
      split <;> rfl
    · rename_i he
      rw [Json.lookup_cons_eq_ite, Json.lookup_cons_eq_ite, ih]
      by_cases h : key' = e.1
      · rw [if_pos h, if_pos h, if_neg (h ▸ he)]
      · rw [if_neg h, if_neg h]

theorem get?_put (root : SettingValue) (key : String) (value : SettingValue) (key' : String) :
    (root.put key value).get? key' = if key' = key then some value else root.get? key' :=
  lookup_putEntry ..

theorem mergeOver_of_isScalar (h : v.isScalar = true) (existing : Option SettingValue) :
    mergeOver existing v = v := by
  cases v with
  | table => cases h
  | _ => rfl

theorem isScalar_ofUntyped (text : String) : (ofUntyped text).isScalar = true := by
  rw [ofUntyped]
  split
  · rfl
  · split
    · rfl
    · split <;> rfl

/-- Sets the value of a key in its section. -/
def putAt (root : SettingValue) (k : SettingKey) (v : SettingValue) : SettingValue :=
  root.put k.part (((root.get? k.part).getD null).put k.name v)

theorem at?_putAt : (root.putAt k v).at? k' = if k' = k then some v else root.at? k' := by
  rw [putAt, at?, at?, get?_put]
  by_cases hpart : k'.part = k.part
  · have hsection : ((root.get? k.part).getD null).get? k'.name =
        (root.get? k'.part).bind (get? k'.name) := by
      rw [hpart]
      cases root.get? k.part <;> rfl
    have hkey : k' = k ↔ k'.name = k.name := by
      obtain ⟨part', name'⟩ := k'
      obtain rfl : part' = k.part := hpart
      exact ⟨fun h => congrArg SettingKey.name h, fun h => by cases h; rfl⟩
    rw [if_pos hpart, Option.bind_some, get?_put, hsection]
    simp only [hkey]
  · have hkey : k' ≠ k := fun h => hpart (congrArg SettingKey.part h)
    rw [if_neg hpart, if_neg hkey]

theorem setAt_path (h : IsPlain (k, v)) (root : SettingValue) :
    setAt v (stepsOfKey k.path) (some root) = root.putAt k v := by
  obtain ⟨hk, hv⟩ := h
  rw [SettingKey.stepsOfKey_path hk]
  simp only [setAt, SettingKey.canonicalKey_eq_self hk.1.2, SettingKey.canonicalKey_eq_self hk.2.2,
    mergeOver_of_isScalar hv, Option.getD_some]
  rfl

theorem override_cons (h : IsPlain (k, v)) (root : SettingValue)
    (rest : List (String × SettingValue)) :
    override root ((k.path, v) :: rest) = override (root.putAt k v) rest := by
  rw [override, List.foldl_cons, setAt_path h]
  rfl

/-- What a single key gives is merged over a tree like the key itself. -/
theorem override_entries (h : IsPlain (k, v)) (root : SettingValue) :
    override root (override (table []) [(k.path, v)]).entries = root.putAt k v := by
  have hentries : (override (table []) [(k.path, v)]).entries =
      [(k.part, table [(k.name, v)])] := by
    rw [override_cons h]
    rfl
  obtain ⟨hk, hv⟩ := h
  rw [hentries, override, List.foldl_cons, SettingKey.stepsOfKey_part hk]
  simp only [setAt, SettingKey.canonicalKey_eq_self hk.1.2, Option.getD_some, mergeOver,
    mergeEntries, SettingKey.canonicalKey_eq_self hk.2.2, mergeOver_of_isScalar hv]
  cases hsection : root.get? k.part <;> simp [putAt, hsection, put, entries]

variable {values : List (SettingKey × SettingValue)}

theorem at?_override_of_forall_ne (hvalues : ∀ v ∈ values, IsPlain v)
    (hne : ∀ v ∈ values, v.1 ≠ k) (root : SettingValue) :
    (override root (values.map fun v => (v.1.path, v.2))).at? k = root.at? k := by
  induction values generalizing root with
  | nil => rfl
  | cons v values ih =>
    obtain ⟨hplain, hrest⟩ := List.forall_mem_cons.mp hvalues
    obtain ⟨hv, hne⟩ := List.forall_mem_cons.mp hne
    rw [List.map_cons, override_cons hplain, ih hrest hne, at?_putAt, if_neg hv.symm]

theorem at?_override (hvalues : ∀ v ∈ values, IsPlain v) (hnodup : (values.map Prod.fst).Nodup)
    (root : SettingValue) :
    ∀ v ∈ values, (override root (values.map fun v => (v.1.path, v.2))).at? v.1 = some v.2 := by
  induction values generalizing root with
  | nil => exact List.forall_mem_nil _
  | cons v values ih =>
    obtain ⟨hplain, hrest⟩ := List.forall_mem_cons.mp hvalues
    obtain ⟨hv, hnodup⟩ := List.nodup_cons.mp hnodup
    have hne : ∀ w ∈ values, w.1 ≠ v.1 := fun w hw heq => hv (heq ▸ List.mem_map_of_mem hw)
    rw [List.map_cons, override_cons hplain]
    refine List.forall_mem_cons.mpr ⟨?_, ih hrest hnodup _⟩
    rw [at?_override_of_forall_ne hrest hne, at?_putAt, if_pos rfl]

end SettingValue

open SettingValue

theorem SettingsLibrary.merging_isDocumented : merging.IsDocumented where
  build_variable values start k name text hvalues hnodup hk hnamed := by
    have hplain : IsPlain (k, ofUntyped text) :=
      ⟨hk.mono fun _ => SettingKey.isNameChar_of_isLower, isScalar_ofUntyped text⟩
    have hentries : environmentEntries ⟨start, "__"⟩ [(name, text)] =
        [(k.path, ofUntyped text)] := by
      rw [environmentEntries, List.filterMap_cons, SettingKey.keyOfVariable?_eq hk hnamed]
      rfl
    refine ⟨(override (table []) (values.map fun v => (v.1.path, v.2))).putAt k (ofUntyped text),
      ?_, ?_, ?_⟩
    · rw [← override_entries hplain, ← hentries]
      rfl
    · rw [at?_putAt, if_pos rfl]
    · intro v hv hne
      rw [at?_putAt, if_neg hne, at?_override hvalues hnodup _ v hv]
  toText?_string _ := rfl
  toCount?_integer n _ := by
    change (if (0 : Int) ≤ n then some (n : Int).toNat else none) = some n
    rw [if_pos (Int.natCast_nonneg n), Int.toNat_natCast]

end AccessGovernance
