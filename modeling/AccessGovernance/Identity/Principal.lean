import AccessGovernance.Identity.Email
import AccessGovernance.Identity.JitGroup
import AccessGovernance.Identity.Directory

/-! # Principals

A principal identifies a user or a set of users. Its text is its kind, a colon and its value, in
canonical form; it is read back in any case and with blanks around either part. Principals are
ordered by the name of the kind and then by the value, which is an order in which only equal
principals compare equal.
-/

namespace AccessGovernance

open Std

structure User where
  email : Email
deriving DecidableEq

/-- A group of the directory, as opposed to a just-in-time group. -/
structure DirectoryGroup where
  email : Email
deriving DecidableEq

structure ServiceAccount where
  email : Email
deriving DecidableEq

inductive UserClass
  /-- Every user that passed the identity-aware proxy. -/
  | proxied
  /-- Users of the organization's own directory. -/
  | internal
  /-- Everybody else: consumer accounts and other organizations. -/
  | external
deriving DecidableEq

inductive PrincipalKind
  | user
  | group
  | serviceAccount
  | jitGroup
  | userClass
  | domain
deriving DecidableEq

inductive PrincipalId
  | user (user : User)
  | group (group : DirectoryGroup)
  | serviceAccount (account : ServiceAccount)
  | jitGroup (group : JitGroup)
  | userClass (set : UserClass)
  | domain (domain : HostedDomain)
deriving DecidableEq

def User.ofText? (s : String) : Option User :=
  (Email.ofText? s).map User.mk

def DirectoryGroup.ofText? (s : String) : Option DirectoryGroup :=
  (Email.ofText? s).map DirectoryGroup.mk

def ServiceAccount.ofText? (s : String) : Option ServiceAccount :=
  (Email.ofText? s).map ServiceAccount.mk

def User.text (u : User) : String :=
  "user:" ++ u.email.text

def DirectoryGroup.text (g : DirectoryGroup) : String :=
  "group:" ++ g.email.text

namespace UserClass

def text : UserClass → String
  | proxied => "iapusers"
  | internal => "internalusers"
  | external => "externalusers"

def all : List UserClass :=
  [proxied, internal, external]

def ofChars? (s : List Char) : Option UserClass :=
  all.find? fun c => c.text.toList = Text.lower s

end UserClass

namespace PrincipalKind

def name : PrincipalKind → String
  | user => "user"
  | group => "group"
  | serviceAccount => "serviceAccount"
  | jitGroup => "jitgroup"
  | userClass => "class"
  | domain => "domain"

def all : List PrincipalKind :=
  [user, group, serviceAccount, jitGroup, userClass, domain]

/-- Reads the name of a kind, ignoring the case of ASCII letters only. -/
def ofChars? (s : List Char) : Option PrincipalKind :=
  all.find? fun k => k.name.toList.map Char.toLower = s.map Char.toLower

end PrincipalKind

namespace PrincipalId

def kind : PrincipalId → PrincipalKind
  | user _ => .user
  | group _ => .group
  | serviceAccount _ => .serviceAccount
  | jitGroup _ => .jitGroup
  | userClass _ => .userClass
  | domain _ => .domain

def value : PrincipalId → String
  | user u => u.email.text
  | group g => g.email.text
  | serviceAccount a => a.email.text
  | jitGroup g => g.text
  | userClass c => c.text
  | domain d => d.text

def text (p : PrincipalId) : String :=
  p.kind.name ++ ":" ++ p.value

def ofValue? (kind : PrincipalKind) (s : List Char) : Option PrincipalId :=
  match kind with
  | .user => (User.ofText? (String.ofList s)).map user
  | .group => (DirectoryGroup.ofText? (String.ofList s)).map group
  | .serviceAccount => (ServiceAccount.ofText? (String.ofList s)).map serviceAccount
  | .jitGroup => (JitGroup.ofFields? (Text.fields '.' s)).map jitGroup
  | .userClass => (UserClass.ofChars? s).map userClass
  | .domain => (HostedDomain.ofChars? s).map domain

/-- Divides a text at its first colon into a kind and a nonempty value. -/
def typed? (s : List Char) : Option (PrincipalKind × List Char) :=
  match Text.cutFirst? ':' (Text.trim s) with
  | none => none
  | some (kind, value) =>
      if Text.trim value = [] then none
      else (PrincipalKind.ofChars? (Text.trim kind)).map fun k => (k, Text.trim value)

def ofText? (s : String) : Option PrincipalId :=
  (typed? s.toList).bind fun p => ofValue? p.1 p.2

def ofTextAs? (kind : PrincipalKind) (s : String) : Option PrincipalId :=
  (ofText? s).filter fun p => p.kind = kind

def jitGroup? : PrincipalId → Option JitGroup
  | jitGroup g => some g
  | _ => none

end PrincipalId

def JitGroup.ofText? (s : String) : Option JitGroup :=
  (PrincipalId.ofText? s).bind PrincipalId.jitGroup?

/-! ## Order -/

theorem UserClass.text_inj {c d : UserClass} : c.text = d.text ↔ c = d := by
  cases c <;> cases d <;> decide

theorem PrincipalKind.name_inj {k l : PrincipalKind} : k.name = l.name ↔ k = l := by
  cases k <;> cases l <;> decide

theorem Email.text_inj {e f : Email} : e.text = f.text ↔ e = f := by
  cases e
  cases f
  simp

theorem HostedDomain.text_inj {c d : HostedDomain} : c.text = d.text ↔ c = d := by
  cases c
  cases d
  simp

namespace PrincipalId

theorem eq_of_kind_of_value {p q : PrincipalId} (hk : p.kind = q.kind) (hv : p.value = q.value) :
    p = q := by
  cases p <;> cases q <;> simp_all [kind, value, Email.text_inj, JitGroup.text_inj,
    UserClass.text_inj, HostedDomain.text_inj]
  all_goals
    rename_i a b
    cases a
    cases b
    simp_all

instance : Ord PrincipalId :=
  ⟨compareLex (compareOn fun p => p.kind.name) (compareOn value)⟩

instance : TransOrd PrincipalId :=
  inferInstanceAs (TransCmp (compareLex (compareOn fun p : PrincipalId => p.kind.name)
    (compareOn value)))

theorem compare_eq_iff {p q : PrincipalId} :
    compare p q = .eq ↔ p.kind.name = q.kind.name ∧ p.value = q.value := by
  change compareLex _ _ p q = .eq ↔ _
  rw [compareLex_eq_eq]
  change compare p.kind.name q.kind.name = .eq ∧ compare p.value q.value = .eq ↔ _
  rw [LawfulEqCmp.compare_eq_iff_eq, LawfulEqCmp.compare_eq_iff_eq]

instance : LawfulEqOrd PrincipalId where
  eq_of_compare h := by
    obtain ⟨hk, hv⟩ := compare_eq_iff.1 h
    exact eq_of_kind_of_value (PrincipalKind.name_inj.1 hk) hv

end PrincipalId

/-! ## Principals that expire -/

/-- A moment, in nanoseconds since the beginning of 1970 in universal time. -/
abbrev Instant := Int

structure Principal where
  id : PrincipalId
  expiry : Option Instant
deriving DecidableEq

namespace Principal

def permanent (id : PrincipalId) : Principal :=
  ⟨id, none⟩

def temporary (id : PrincipalId) (expiry : Instant) : Principal :=
  ⟨id, some expiry⟩

/-- A principal is valid strictly before it expires. -/
def isValidAt (p : Principal) (t : Instant) : Bool :=
  p.expiry.all fun expiry => t < expiry

instance : Ord Principal :=
  ⟨compareLex (compareOn id) (compareOn expiry)⟩

instance : TransOrd Principal :=
  inferInstanceAs (TransCmp (compareLex (compareOn Principal.id) (compareOn Principal.expiry)))

instance : LawfulEqOrd Principal where
  eq_of_compare {p q} h := by
    change compareLex _ _ p q = .eq at h
    rw [compareLex_eq_eq] at h
    have hi : p.id = q.id := LawfulEqCmp.eq_of_compare h.1
    have he : p.expiry = q.expiry := LawfulEqCmp.eq_of_compare h.2
    cases p
    cases q
    simp_all

end Principal

end AccessGovernance
