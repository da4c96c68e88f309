import AccessGovernance.Identity.Subject

/-! # What a subject holds

The principals of a subject are its own and the given ones that may be given, in whatever order and
however often. At a moment it holds those that have not expired by then. Users, classes and domains
may not be given, so who a subject is and which class it is of are the same at every moment.
-/

namespace AccessGovernance

theorem Principal.isValidAt_iff {p : Principal} {t : Instant} :
    p.isValidAt t = true ↔ ∀ expiry, p.expiry = some expiry → t < expiry := by
  rw [isValidAt]
  cases p.expiry <;> simp

namespace Subject

/-- The subject has the principal for good, or until a later moment. -/
def Holds (s : Subject) (id : PrincipalId) (t : Instant) : Prop :=
  ∃ p ∈ s.principals, p.id = id ∧ ∀ expiry, p.expiry = some expiry → t < expiry

theorem mem_idsAt_iff {s : Subject} {id : PrincipalId} {t : Instant} :
    id ∈ s.idsAt t ↔ s.Holds id t := by
  rw [idsAt, Ascending.mem_ofList, List.mem_map]
  constructor
  · rintro ⟨p, hp, hid⟩
    obtain ⟨hp, hv⟩ := List.mem_filter.mp hp
    exact ⟨p, hp, hid, Principal.isValidAt_iff.mp hv⟩
  · rintro ⟨p, hp, hid, hv⟩
    exact ⟨p, List.mem_filter.mpr ⟨hp, Principal.isValidAt_iff.mpr hv⟩, hid⟩

variable {user : User} {directory internal : Directory} {given : List Principal}

theorem mem_principals_ofUser_iff {p : Principal} :
    p ∈ (ofUser user directory internal given).principals ↔
      p ∈ ownPrincipals user directory internal ∨ p ∈ given ∧ isGivable p = true := by
  rw [ofUser, Ascending.mem_ofList, List.mem_append, List.mem_filter]

/-- Only which principals are given matters. -/
theorem ofUser_congr {given' : List Principal} (h : ∀ p, p ∈ given ↔ p ∈ given') :
    ofUser user directory internal given = ofUser user directory internal given' := by
  have hprincipals : (ofUser user directory internal given).principals =
      (ofUser user directory internal given').principals := by
    apply Ascending.eq_of_mem_iff
    intro p
    rw [mem_principals_ofUser_iff, mem_principals_ofUser_iff, h]
  exact congrArg (Subject.mk user) hprincipals

theorem isGivable_iff {p : Principal} :
    isGivable p = true ↔
      p.id.kind = .group ∨ p.id.kind = .serviceAccount ∨ p.id.kind = .jitGroup := by
  rw [isGivable]
  cases p.id <;> simp [PrincipalId.kind]

theorem isGivable_of_mem_ownPrincipals {p : Principal}
    (h : p ∈ ownPrincipals user directory internal) : isGivable p = false := by
  rw [ownPrincipals] at h
  simp only [List.mem_cons, Option.mem_toList, Option.map_eq_some_iff] at h
  rcases h with rfl | rfl | rfl | ⟨d, _, rfl⟩ <;> rfl

theorem mem_principals_of_isGivable_iff {p : Principal} (h : isGivable p = true) :
    p ∈ (ofUser user directory internal given).principals ↔ p ∈ given := by
  rw [mem_principals_ofUser_iff]
  constructor
  · rintro (hown | ⟨hgiven, _⟩)
    · rw [isGivable_of_mem_ownPrincipals hown] at h
      cases h
    · exact hgiven
  · intro hgiven
    exact .inr ⟨hgiven, h⟩

/-! ## The subject of a user -/

/-- The user's directory is a managed one, and it is the organization's. -/
def IsInternalUser (directory internal : Directory) : Prop :=
  directory.isManaged = true ∧ directory = internal

theorem mem_ownPrincipals_iff {p : Principal} :
    p ∈ ownPrincipals user directory internal ↔
      p = .permanent (.userClass .proxied) ∨ p = .permanent (.user user) ∨
      IsInternalUser directory internal ∧ p = .permanent (.userClass .internal) ∨
      ¬ IsInternalUser directory internal ∧ p = .permanent (.userClass .external) ∨
      ∃ d, directory = .managed d ∧ p = .permanent (.domain d) := by
  have hdomain : (directory.hostedDomain?.map fun d => Principal.permanent (.domain d)) = some p ↔
      ∃ d, directory = .managed d ∧ p = .permanent (.domain d) := by
    cases directory <;> simp [Directory.hostedDomain?, eq_comm]
  have hclass : p = .permanent (.userClass (classOf directory internal)) ↔
      IsInternalUser directory internal ∧ p = .permanent (.userClass .internal) ∨
      ¬ IsInternalUser directory internal ∧ p = .permanent (.userClass .external) := by
    by_cases h : IsInternalUser directory internal
    · have hinternal : classOf directory internal = .internal :=
        if_pos (by simpa [IsInternalUser] using h)
      simp [hinternal, h]
    · have hexternal : classOf directory internal = .external :=
        if_neg (by simpa [IsInternalUser] using h)
      simp [hexternal, h]
  rw [ownPrincipals, List.mem_cons, List.mem_cons, List.mem_cons, Option.mem_toList, hdomain,
    hclass, or_assoc]

theorem isGivable_iff_ne {p : Principal} :
    isGivable p = true ↔ p.id.kind ≠ .user ∧ p.id.kind ≠ .userClass ∧ p.id.kind ≠ .domain := by
  rw [isGivable]
  cases p.id <;> simp [PrincipalId.kind]

theorem mem_idsAt_ofUser_iff {id : PrincipalId} {t : Instant} :
    id ∈ (ofUser user directory internal given).idsAt t ↔
      .permanent id ∈ ownPrincipals user directory internal ∨
        ∃ p ∈ given, isGivable p = true ∧ p.id = id ∧
          ∀ expiry, p.expiry = some expiry → t < expiry := by
  rw [mem_idsAt_iff]
  constructor
  · rintro ⟨p, hp, rfl, hvalid⟩
    rcases mem_principals_ofUser_iff.mp hp with hown | ⟨hgiven, hgivable⟩
    · -- the subject's own principals are all permanent
      left
      rcases mem_ownPrincipals_iff.mp hown with rfl | rfl | ⟨_, rfl⟩ | ⟨_, rfl⟩ | ⟨d, _, rfl⟩ <;>
        exact hown
    · exact .inr ⟨p, hgiven, hgivable, rfl, hvalid⟩
  · rintro (hown | ⟨p, hgiven, hgivable, rfl, hvalid⟩)
    · exact ⟨_, mem_principals_ofUser_iff.mpr (.inl hown), rfl, by rintro _ ⟨⟩⟩
    · exact ⟨p, mem_principals_ofUser_iff.mpr (.inr ⟨hgiven, hgivable⟩), rfl, hvalid⟩

theorem mem_idsAt_iff_of_not_isGivable {id : PrincipalId} {t : Instant}
    (h : isGivable (.permanent id) = false) :
    id ∈ (ofUser user directory internal given).idsAt t ↔
      .permanent id ∈ ownPrincipals user directory internal := by
  rw [mem_idsAt_ofUser_iff]
  apply or_iff_left
  rintro ⟨p, _, hgivable, rfl, _⟩
  -- whether a principal may be given is a matter of its id alone
  exact Bool.false_ne_true (h.symm.trans hgivable)

theorem mem_idsAt_iff_of_isGivable {id : PrincipalId} {t : Instant}
    (h : isGivable (.permanent id) = true) :
    id ∈ (ofUser user directory internal given).idsAt t ↔
      ∃ p ∈ given, p.id = id ∧ ∀ expiry, p.expiry = some expiry → t < expiry := by
  rw [mem_idsAt_ofUser_iff]
  constructor
  · rintro (hown | ⟨p, hgiven, _, hp⟩)
    · rw [isGivable_of_mem_ownPrincipals hown] at h
      cases h
    · exact ⟨p, hgiven, hp⟩
  · rintro ⟨p, hgiven, rfl, hvalid⟩
    exact .inr ⟨p, hgiven, h, rfl, hvalid⟩

theorem isInternal_iff {s : Subject} :
    s.isInternal = true ↔ ∃ p ∈ s.principals, p.id = .userClass .internal := by
  rw [isInternal, List.any_eq_true]
  simp only [decide_eq_true_eq]
  rfl

theorem isInternal_ofUser_iff :
    (ofUser user directory internal given).isInternal = true ↔
      IsInternalUser directory internal := by
  rw [isInternal_iff]
  constructor
  · rintro ⟨p, hp, hid⟩
    rcases mem_principals_ofUser_iff.mp hp with hown | ⟨_, hgivable⟩
    · rcases mem_ownPrincipals_iff.mp hown with rfl | rfl | ⟨h, rfl⟩ | ⟨_, rfl⟩ | ⟨d, _, rfl⟩
      case inr.inr.inl => exact h
      all_goals cases hid
    · rw [isGivable, hid] at hgivable
      cases hgivable
  · intro h
    exact ⟨.permanent (.userClass .internal), mem_principals_ofUser_iff.mpr
      (.inl (mem_ownPrincipals_iff.mpr (.inr (.inr (.inl ⟨h, rfl⟩))))), rfl⟩

/-- The principals that the subject of a user has at a moment. It always has those that follow from
the user and the directory, and no others of these kinds; any other principal it has iff it was
given it and not all of what it was given has expired. -/
structure HasIdsOf (s : Subject) (user : User) (directory internal : Directory)
    (given : List Principal) (t : Instant) : Prop where
  proxied : .userClass .proxied ∈ s.idsAt t
  user_iff : ∀ u, .user u ∈ s.idsAt t ↔ u = user
  internal_iff : .userClass .internal ∈ s.idsAt t ↔ IsInternalUser directory internal
  external_iff : .userClass .external ∈ s.idsAt t ↔ ¬ IsInternalUser directory internal
  domain_iff : ∀ d, .domain d ∈ s.idsAt t ↔ directory = .managed d
  other_iff : ∀ id : PrincipalId, id.kind ≠ .user → id.kind ≠ .userClass → id.kind ≠ .domain →
    (id ∈ s.idsAt t ↔ ∃ p ∈ given, p.id = id ∧ ∀ expiry, p.expiry = some expiry → t < expiry)

theorem hasIdsOf_ofUser (t : Instant) :
    (ofUser user directory internal given).HasIdsOf user directory internal given t where
  proxied := (mem_idsAt_iff_of_not_isGivable rfl).mpr (mem_ownPrincipals_iff.mpr (.inl rfl))
  user_iff u := by
    rw [mem_idsAt_iff_of_not_isGivable rfl, mem_ownPrincipals_iff]
    simp [Principal.permanent]
  internal_iff := by
    rw [mem_idsAt_iff_of_not_isGivable rfl, mem_ownPrincipals_iff]
    simp [Principal.permanent]
  external_iff := by
    rw [mem_idsAt_iff_of_not_isGivable rfl, mem_ownPrincipals_iff]
    simp [Principal.permanent]
  domain_iff d := by
    rw [mem_idsAt_iff_of_not_isGivable rfl, mem_ownPrincipals_iff]
    simp [Principal.permanent]
  other_iff id huser hclass hdomain :=
    mem_idsAt_iff_of_isGivable (isGivable_iff_ne.mpr ⟨huser, hclass, hdomain⟩)

/-- A subject has what follows from its user and directory, for good, and what it was given unless
that is a user, a class or a domain. Neither order nor repetition of what is given matters, and no
moment changes who the subject is. -/
theorem ofUser_principals (user : User) (directory internal : Directory) (given : List Principal) :
    (∀ p, p ∈ (ofUser user directory internal given).principals ↔
      (p = .permanent (.userClass .proxied) ∨ p = .permanent (.user user) ∨
        IsInternalUser directory internal ∧ p = .permanent (.userClass .internal) ∨
        ¬ IsInternalUser directory internal ∧ p = .permanent (.userClass .external) ∨
        ∃ d, directory = .managed d ∧ p = .permanent (.domain d)) ∨
      p ∈ given ∧ p.id.kind ≠ .user ∧ p.id.kind ≠ .userClass ∧ p.id.kind ≠ .domain) ∧
    (∀ given', (∀ p, p ∈ given ↔ p ∈ given') →
      ofUser user directory internal given = ofUser user directory internal given') ∧
    ((ofUser user directory internal given).isInternal = true ↔
      IsInternalUser directory internal) ∧
    ∀ t, (ofUser user directory internal given).HasIdsOf user directory internal given t := by
  refine ⟨fun p => ?_, fun _ => ofUser_congr, isInternal_ofUser_iff, hasIdsOf_ofUser⟩
  rw [mem_principals_ofUser_iff, mem_ownPrincipals_iff, isGivable_iff_ne]

end Subject

end AccessGovernance
