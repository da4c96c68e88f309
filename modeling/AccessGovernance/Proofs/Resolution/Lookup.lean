import AccessGovernance.Resolution.Lookup
import Mathlib.Data.List.Perm.Subperm

/-! # How look-ups come out

Whatever a scheduler picks, look-ups come out in one of two ways. Either the directory is asked for
each membership once, and all that is found is joined; or one of those that were asked failed. What
one turn does is said first, and a run is made of turns.
-/

namespace AccessGovernance

theorem AccessError.message_backend (reason : String) :
    (backend reason).message = "Backend I/O error: " ++ reason :=
  rfl

namespace LookupOutcome

inductive Ends : LookupOutcome → Prop
  | found (m : Membership) : Ends (.found m)
  | vanished (what : String) : Ends (.failed (.notFound what))

/-- The look-up failed for another reason than that the membership is gone, or broke off. -/
inductive FailsWith : LookupOutcome → String → Prop
  | failed {cause : AccessError} (h : ∀ what, cause ≠ .notFound what) :
      FailsWith (.failed cause) cause.message
  | died (reason : String) :
      FailsWith (.died reason) ("Backend I/O error: membership lookup task failed: " ++ reason)

theorem ends_of_failure? {o : LookupOutcome} (h : o.failure? = none) : o.Ends := by
  cases o with
  | found m => exact .found m
  | failed cause =>
    cases cause with
    | notFound what => exact .vanished what
    | _ => cases h
  | died reason => cases h

theorem failsWith_of_failure? {o : LookupOutcome} {cause : AccessError}
    (h : o.failure? = some cause) : o.FailsWith cause.message := by
  cases o with
  | found m => cases h
  | failed cause' =>
    rw [failure?] at h
    split at h
    · cases h
    · rename_i hfound
      obtain rfl := Option.some.inj h
      refine .failed ?_
      rintro what rfl
      exact hfound rfl
  | died reason =>
    rw [failure?, Option.some.injEq] at h
    subst h
    have hjoin : "Backend I/O error: " ++ "membership lookup task failed: " =
        "Backend I/O error: membership lookup task failed: " := by decide
    rw [AccessError.message_backend, ← String.append_assoc, hjoin]
    exact .died reason

theorem not_failsWith_of_ends {o : LookupOutcome} {message : String} (h : o.Ends) :
    ¬ o.FailsWith message := by
  intro hfails
  cases h with
  | found m => cases hfails
  | vanished what =>
    cases hfails with
    | failed hcause => exact hcause what rfl

end LookupOutcome

/-- How look-ups come out, if these are the ones that still asked the directory. -/
inductive Tasks.ComeOut (t : Tasks) (asked : List Completion) :
    Except AccessError (List Completion) → Prop
  | joined {joined : List Completion} (hasked : (asked.map Completion.membership).Perm t.waiting)
      (hjoined : joined.Perm (t.ended ++ asked)) (hends : ∀ c ∈ joined, c.outcome.Ends) :
      ComeOut t asked (.ok joined)
  | failed {c : Completion} {cause : AccessError}
      (hasked : (asked.map Completion.membership).Subperm t.waiting) (hc : c ∈ t.ended ++ asked)
      (hfails : c.outcome.FailsWith cause.message) : ComeOut t asked (.error cause)

namespace Tasks.ComeOut

variable {t : Tasks} {asked : List Completion} {result : Except AccessError (List Completion)}

theorem subperm (h : t.ComeOut asked result) :
    (asked.map Completion.membership).Subperm t.waiting := by
  cases h with
  | joined hasked => exact hasked.subperm
  | failed hasked => exact hasked

theorem eq_error_of_failsWith {ms : List ListedMembership} (h : (spawn ms).ComeOut asked result)
    (hfails : ∃ c ∈ asked, ∃ message, c.outcome.FailsWith message) :
    ∃ c ∈ asked, ∃ cause, c.outcome.FailsWith cause.message ∧ result = .error cause := by
  obtain ⟨c, hc, message, hmessage⟩ := hfails
  cases h with
  | joined hasked hjoined hends =>
    exact absurd hmessage (LookupOutcome.not_failsWith_of_ends (hends c (hjoined.mem_iff.mpr hc)))
  | failed hasked hc' hcause => exact ⟨_, hc', _, hcause, rfl⟩

theorem of_ask {before after : List ListedMembership} {c : Completion}
    (hwaiting : t.waiting = before ++ c.membership :: after)
    (h : ComeOut ⟨before ++ after, t.ended ++ [c]⟩ asked result) :
    t.ComeOut (c :: asked) result := by
  have hperm : (c.membership :: (before ++ after)).Perm t.waiting := by
    rw [hwaiting]
    exact List.perm_middle.symm
  have hended : t.ended ++ [c] ++ asked = t.ended ++ c :: asked := (List.append_cons ..).symm
  cases h with
  | joined hasked hjoined hends =>
    exact .joined ((hasked.cons _).trans hperm) (hended ▸ hjoined) hends
  | failed hasked hc hfails =>
    refine .failed ?_ (hended ▸ hc) hfails
    exact ((List.subperm_cons _).mpr hasked).trans hperm.subperm

theorem of_join {before after : List Completion} {c : Completion}
    (hended : t.ended = before ++ c :: after) (hc : c.outcome.Ends)
    (h : ComeOut ⟨t.waiting, before ++ after⟩ asked result) :
    t.ComeOut asked (result.map (c :: ·)) := by
  have hperm : (c :: (before ++ after ++ asked)).Perm (t.ended ++ asked) := by
    rw [hended, List.append_assoc, List.append_assoc, List.cons_append]
    exact List.perm_middle.symm
  cases h with
  | joined hasked hjoined hends =>
    exact .joined hasked ((hjoined.cons c).trans hperm) (List.forall_mem_cons.mpr ⟨hc, hends⟩)
  | failed hasked hc hfails =>
    exact .failed hasked (hperm.mem_iff.mp (List.mem_cons_of_mem _ hc)) hfails

theorem of_failure {before after : List Completion} {c : Completion} {cause : AccessError}
    (hended : t.ended = before ++ c :: after) (hcause : c.outcome.failure? = some cause) :
    t.ComeOut [] (.error cause) := by
  refine .failed List.nil_subperm ?_ (LookupOutcome.failsWith_of_failure? hcause)
  rw [hended, List.append_nil]
  exact List.mem_append_right _ List.mem_cons_self

theorem of_size_eq_zero (h : t.size = 0) : t.ComeOut [] (.ok []) := by
  obtain ⟨hwaiting, hended⟩ := size_eq_zero_iff.mp h
  refine .joined ?_ ?_ (List.forall_mem_nil _)
  · rw [hwaiting]
    exact .nil
  · rw [hended]
    exact .nil

end Tasks.ComeOut

namespace GroupsClient

variable {σ : Type} {client : GroupsClient σ}

/-- The directory is asked for memberships one after the other, and this is what comes of it. -/
inductive Asks (client : GroupsClient σ) : List Completion → σ → σ → Prop
  | nil (s : σ) : Asks client [] s s
  | cons {c : Completion} {asked : List Completion} {s s₁ s₂ : σ}
      (h : client.membership c.membership.id s = (c.outcome, s₁))
      (hrest : Asks client asked s₁ s₂) : Asks client (c :: asked) s s₂

theorem Asks.exists_of_mem {asked : List Completion} {s s' : σ} (h : client.Asks asked s s')
    {c : Completion} (hc : c ∈ asked) :
    ∃ s₀, (client.membership c.membership.id s₀).1 = c.outcome := by
  induction h with
  | nil => cases hc
  | cons h _ ih =>
    rcases List.mem_cons.mp hc with rfl | hc
    · exact ⟨_, congrArg Prod.fst h⟩
    · exact ih hc

theorem Asks.eq_of_mem {asked : List Completion} {s s' : σ} (h : client.Asks asked s s')
    {c : Completion} (hc : c ∈ asked) {o : LookupOutcome}
    (ho : ∀ s, (client.membership c.membership.id s).1 = o) : c.outcome = o := by
  obtain ⟨s₀, hs₀⟩ := h.exists_of_mem hc
  rw [← hs₀, ho]

theorem map_lookUp_eq {cs : List Completion} {s : σ}
    (h : ∀ c ∈ cs, (client.membership c.membership.id s).1 = c.outcome) :
    (cs.map Completion.membership).map (fun m => (client.lookUp m s).1) = cs := by
  rw [List.map_map, List.map_congr_left, List.map_id]
  intro c hc
  exact congrArg (Completion.mk c.membership) (h c hc)

theorem Asks.append {asked more : List Completion} {s s₁ s₂ : σ} (h : client.Asks asked s s₁)
    (hmore : client.Asks more s₁ s₂) : client.Asks (asked ++ more) s s₂ := by
  induction h with
  | nil => exact hmore
  | cons h _ ih => exact .cons h (ih hmore)

theorem exists_asks_map_eq (client : GroupsClient σ) (ms : List ListedMembership) (s : σ) :
    ∃ asked s', client.Asks asked s s' ∧ asked.map Completion.membership = ms := by
  induction ms generalizing s with
  | nil => exact ⟨[], s, .nil s, rfl⟩
  | cons m ms ih =>
    obtain ⟨asked, s', hasks, hasked⟩ := ih (client.lookUp m s).2
    exact ⟨(client.lookUp m s).1 :: asked, s', .cons rfl hasks, congrArg (m :: ·) hasked⟩

/-- In whatever order the directory is asked for all of these memberships, this is what is found. -/
def Gives (client : GroupsClient σ) (found : List Completion) (s : σ) : Prop :=
  ∀ asked s', client.Asks asked s s' →
    (asked.map Completion.membership).Perm (found.map Completion.membership) → asked.Perm found

theorem gives_of_forall {found : List Completion}
    (h : ∀ c ∈ found, ∀ s, (client.membership c.membership.id s).1 = c.outcome) (s : σ) :
    client.Gives found s := by
  intro asked s' hasks hperm
  have hasked : ∀ c ∈ asked, (client.membership c.membership.id s).1 = c.outcome := by
    intro c hc
    obtain ⟨c', hc', hm⟩ := List.mem_map.mp (hperm.subset (List.mem_map_of_mem hc))
    have hsame : ∀ s, (client.membership c.membership.id s).1 = c'.outcome := hm ▸ h c' hc'
    rw [hsame, hasks.eq_of_mem hc hsame]
  rw [← map_lookUp_eq hasked, ← map_lookUp_eq fun c hc => h c hc s]
  exact hperm.map _

theorem Gives.subset {found asked : List Completion} {s s' : σ} (h : client.Gives found s)
    (hasks : client.Asks asked s s')
    (hasked : (asked.map Completion.membership).Subperm (found.map Completion.membership)) :
    asked ⊆ found := by
  -- the directory can be asked for the rest too, and then what is found is known
  obtain ⟨ms, hms, hsublist⟩ := hasked
  obtain ⟨rest, hrest⟩ := hsublist.exists_perm_append
  obtain ⟨more, s'', hmore, rfl⟩ := client.exists_asks_map_eq rest s'
  have hperm : (asked ++ more).Perm found := by
    refine h _ _ (hasks.append hmore) ?_
    rw [List.map_append]
    exact (hms.symm.append_right _).trans hrest.symm
  intro c hc
  exact hperm.subset (List.mem_append_left _ hc)

/-! ## Runs -/

theorem exists_asks (client : GroupsClient σ) (scheduler : Tasks.Scheduler) (t : Tasks) (s : σ) :
    ∃ asked, client.Asks asked s (client.joinAll scheduler t s).2 ∧
      t.ComeOut asked (client.joinAll scheduler t s).1 := by
  fun_induction joinAll client scheduler t s with
  | case1 t s h => exact ⟨[], .nil s, .of_size_eq_zero h⟩
  | case2 t s h before m after hwaiting _ asked ih =>
    obtain ⟨more, hmore, hout⟩ := ih
    exact ⟨asked.1 :: more, .cons rfl hmore, .of_ask hwaiting hout⟩
  | case3 t s h before c after hended _ cause hcause =>
    exact ⟨[], .nil s, .of_failure hended hcause⟩
  | case4 t s h before c after hended _ hcause more ih =>
    obtain ⟨asked, hasked, hout⟩ := ih
    exact ⟨asked, hasked, .of_join hended (LookupOutcome.ends_of_failure? hcause) hout⟩

/-- Whenever the directory is asked for the membership, the look-up fails. -/
def Fails (client : GroupsClient σ) (m : ListedMembership) : Prop :=
  ∀ s, ∃ message, (client.membership m.id s).1.FailsWith message

theorem Fails.exists_failsWith {ms : List ListedMembership} {m : ListedMembership}
    (h : client.Fails m) (hm : m ∈ ms) {asked : List Completion} {s s' : σ}
    (hasks : client.Asks asked s s') {result : Except AccessError (List Completion)}
    (hout : (Tasks.spawn ms).ComeOut asked result) :
    ∃ c ∈ asked, ∃ message, c.outcome.FailsWith message := by
  cases hout with
  | joined hasked =>
    obtain ⟨c, hc, rfl⟩ := List.mem_map.mp (hasked.mem_iff.mpr hm)
    obtain ⟨s₀, hs₀⟩ := hasks.exists_of_mem hc
    exact ⟨c, hc, hs₀ ▸ h s₀⟩
  | failed _ hc hcause => exact ⟨_, hc, _, hcause⟩

theorem Gives.exists_failsWith {found asked : List Completion} {c : Completion} {message : String}
    {s s' : σ} (h : client.Gives found s) (hc : c ∈ found) (hfails : c.outcome.FailsWith message)
    (hasks : client.Asks asked s s') {result : Except AccessError (List Completion)}
    (hout : (Tasks.spawn (found.map Completion.membership)).ComeOut asked result) :
    ∃ c ∈ asked, ∃ message, c.outcome.FailsWith message := by
  cases hout with
  | joined hasked => exact ⟨c, (h asked s' hasks hasked).mem_iff.mpr hc, message, hfails⟩
  | failed _ hc hcause => exact ⟨_, hc, _, hcause⟩

theorem ends_of_joinAll {scheduler : Tasks.Scheduler} {t : Tasks} {joined : List Completion}
    {s s' : σ} (h : client.joinAll scheduler t s = (.ok joined, s')) :
    ∀ c ∈ joined, c.outcome.Ends := by
  obtain ⟨asked, -, hout⟩ := client.exists_asks scheduler t s
  rw [h] at hout
  cases hout with
  | joined _ _ hends => exact hends

theorem joinAll_of_asks {ms : List ListedMembership} {s : σ}
    (h : ∀ asked s', client.Asks asked s s' → (asked.map Completion.membership).Subperm ms →
      ∀ c ∈ asked, c.outcome.Ends) (scheduler : Tasks.Scheduler) :
    ∃ asked joined s', client.Asks asked s s' ∧ (asked.map Completion.membership).Perm ms ∧
      joined.Perm asked ∧ client.joinAll scheduler (.spawn ms) s = (.ok joined, s') := by
  obtain ⟨asked, hasks, hout⟩ := client.exists_asks scheduler (.spawn ms) s
  generalize client.joinAll scheduler (.spawn ms) s = run at hasks hout
  obtain ⟨result, s'⟩ := run
  cases hout with
  | joined hasked hjoined => exact ⟨asked, _, s', hasks, hasked, hjoined, rfl⟩
  | failed hasked hc hfails =>
    exact absurd hfails (LookupOutcome.not_failsWith_of_ends (h asked s' hasks hasked _ hc))

theorem joinAll_of_ends {ms : List ListedMembership}
    (h : ∀ m ∈ ms, ∀ s, (client.membership m.id s).1.Ends) (scheduler : Tasks.Scheduler) (s : σ) :
    ∃ asked joined s', client.Asks asked s s' ∧ (asked.map Completion.membership).Perm ms ∧
      joined.Perm asked ∧ client.joinAll scheduler (.spawn ms) s = (.ok joined, s') := by
  refine joinAll_of_asks ?_ scheduler
  intro asked s' hasks hasked c hc
  obtain ⟨s₀, hs₀⟩ := hasks.exists_of_mem hc
  exact hs₀ ▸ h _ (hasked.subset (List.mem_map_of_mem hc)) s₀

theorem joinAll_of_gives {found : List Completion} {s : σ} (h : client.Gives found s)
    (hends : ∀ c ∈ found, c.outcome.Ends) (scheduler : Tasks.Scheduler) :
    ∃ asked joined s', client.Asks asked s s' ∧ asked.Perm found ∧ joined.Perm asked ∧
      client.joinAll scheduler (.spawn (found.map Completion.membership)) s = (.ok joined, s') := by
  obtain ⟨asked, joined, s', hasks, hasked, hjoined, hjoin⟩ :=
    joinAll_of_asks (fun _ _ hasks hasked c hc => hends c (h.subset hasks hasked hc)) scheduler
  exact ⟨asked, joined, s', hasks, h asked s' hasks hasked, hjoined, hjoin⟩

end GroupsClient

end AccessGovernance
