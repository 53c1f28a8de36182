import SessionSquash.Proofs.Squash.TeamChanges

namespace SessionSquash

set_option autoImplicit false

namespace TeamState

/-- What an entry of the tracker keeps whatever it saw. -/
structure Coherent (st : TeamState) : Prop where
  /-- No player is pending both addition and removal. -/
  disjoint : ∀ p ∈ st.pendingAdd.elements, p ∉ st.pendingRemove.elements
  /-- A team that does not predate the recording has no removal pending. -/
  removeUpdated : st.status ≠ .updated → st.pendingRemove.elements = []
  /-- A team created during the recording has its display information. -/
  informed : st.status = .created ∨ st.status = .recreated → st.info.isSome

variable {st : TeamState}

/-- A fresh entry that was not created, with nothing pending. -/
theorem coherent_fresh {status : TeamStatus} (hs : status = .updated ∨ status = .removed) :
    ({ status } : TeamState).Coherent where
  disjoint _ h := by cases h
  removeUpdated _ := rfl
  informed h := by rcases h with h | h <;> rcases hs with hs | hs <;> rw [hs] at h <;> cases h

theorem Coherent.addPlayers (h : st.Coherent) (players : List String) :
    (st.addPlayers players).Coherent := by
  induction players generalizing st with
  | nil => exact h
  | cons p rest ih =>
    simp only [TeamState.addPlayers, List.foldl_cons] at ih ⊢
    apply ih
    split
    · refine ⟨fun q hq hr => h.disjoint q hq (KeySet.mem_erase.mp hr).1, fun hs => ?_, h.informed⟩
      simp [KeySet.erase, h.removeUpdated hs]
    · rename_i hp
      refine ⟨fun q hq hr => ?_, h.removeUpdated, h.informed⟩
      rcases KeySet.mem_insert.mp hq with rfl | hq
      · exact hp (KeySet.contains_iff_mem.mpr hr)
      · exact h.disjoint q hq hr

theorem Coherent.removePlayers (h : st.Coherent) (players : List String) :
    (st.removePlayers players).Coherent := by
  induction players generalizing st with
  | nil => exact h
  | cons p rest ih =>
    simp only [TeamState.removePlayers, List.foldl_cons] at ih ⊢
    apply ih
    split
    · exact ⟨fun q hq hr => h.disjoint q (KeySet.mem_erase.mp hq).1 hr, h.removeUpdated,
        h.informed⟩
    · split
      · rename_i hp hu
        refine ⟨fun q hq hr => ?_, fun hs => absurd (beq_iff_eq.mp hu) hs, h.informed⟩
        rcases KeySet.mem_insert.mp hr with rfl | hr
        · exact hp (KeySet.contains_iff_mem.mpr hq)
        · exact h.disjoint q hq hr
      · exact h

theorem Coherent.apply (h : st.Coherent) (a : TeamAction) : (st.apply a).Coherent := by
  have hinfo (info : TeamInfo) : ({ st with info := some info } : TeamState).Coherent :=
    ⟨h.disjoint, h.removeUpdated, fun _ => rfl⟩
  cases a with
  | create info players => exact (hinfo info).addPlayers players
  | update info => exact hinfo info
  | addPlayers players => exact h.addPlayers players
  | removePlayers players => exact h.removePlayers players
  | remove => exact h

/-- A create on a fresh entry leaves it informed, with only additions pending. -/
theorem coherent_fresh_create (status : TeamStatus) (info : TeamInfo) (players : List String) :
    (({ status } : TeamState).apply (.create info players)).Coherent :=
  Coherent.addPlayers ⟨fun _ h => (by cases h), fun _ => rfl, fun _ => rfl⟩ players

/-- What the tracker makes of an entry, or of its lack of one, is coherent when the entry was. -/
theorem Coherent.step {o : Option TeamState} (ho : ∀ st, o = some st → st.Coherent)
    (a : TeamAction) : ∀ st, TeamState.step a o = some st → st.Coherent := by
  intro st hst
  cases o with
  | none =>
    simp only [TeamState.step, Option.some.injEq] at hst
    subst hst
    cases a with
    | create info players => exact coherent_fresh_create .created info players
    | remove => exact coherent_fresh (.inr rfl)
    | update info => exact (coherent_fresh (.inl rfl)).apply _
    | addPlayers players => exact (coherent_fresh (.inl rfl)).apply _
    | removePlayers players => exact (coherent_fresh (.inl rfl)).apply _
  | some team =>
    have h := ho team rfl
    cases a with
    | remove =>
      cases hs : team.status with
      | created => simp [TeamState.step, hs] at hst
      | updated | removed | recreated =>
        simp only [TeamState.step, hs, Option.some.injEq] at hst
        subst hst
        exact coherent_fresh (.inr rfl)
    | create info players =>
      cases hs : team.status with
      | removed =>
        simp only [TeamState.step, hs, Option.some.injEq] at hst
        subst hst
        exact coherent_fresh_create .recreated info players
      | created | updated | recreated =>
        simp only [TeamState.step, hs, Option.some.injEq] at hst
        subst hst
        exact h.apply _
    | update info | addPlayers players | removePlayers players =>
      simp only [TeamState.step, Option.some.injEq] at hst
      subst hst
      exact h.apply _

end TeamState

namespace TeamTracker

open TeamState

variable {t : TeamTracker}

theorem coherent_onTeam (ht : ∀ e ∈ t.teams.entries, e.2.Coherent) (r : TeamRecord) :
    ∀ e ∈ (t.onTeam r).teams.entries, e.2.Coherent := by
  rw [onTeam_eq]
  intro e he
  rcases KeyMap.mem_entries_update he with he | he
  · exact ht e he
  · refine Coherent.step (fun st hst => ?_) r.action e.2 he
    obtain ⟨k, hk⟩ := KeyMap.find?_mem hst
    exact ht (k, st) hk

theorem coherent_foldl_onTeam (rs : List TeamRecord) (ht : ∀ e ∈ t.teams.entries, e.2.Coherent) :
    ∀ e ∈ (rs.foldl onTeam t).teams.entries, e.2.Coherent := by
  induction rs generalizing t with
  | nil => exact ht
  | cons r rest ih => exact ih (coherent_onTeam ht r)

/-- An informed team is written back with a create record when it was created. -/
theorem Coherent.create_mem_synthesize (ht : ∀ e ∈ t.teams.entries, e.2.Coherent)
    {name : String} {st : TeamState} (he : (name, st) ∈ t.teams.entries)
    (hs : st.status = .created ∨ st.status = .recreated) (time : Int64) :
    ∃ info, st.info = some info ∧
      (⟨time, .typed (.team ⟨name, .create info st.pendingAdd.elements⟩)⟩ : TimedRecord) ∈
        t.synthesize time := by
  obtain ⟨info, hi⟩ : ∃ info, st.info = some info :=
    Option.isSome_iff_exists.mp ((ht _ he).informed hs)
  refine ⟨info, hi, List.mem_flatMap.mpr ⟨(name, st), he, List.mem_map.mpr ⟨_, ?_, rfl⟩⟩⟩
  unfold teamRecords
  rcases hs with hs | hs <;> simp [hs, hi]

theorem uninformed_eq_nil (ht : ∀ e ∈ t.teams.entries, e.2.Coherent) : t.uninformed = [] := by
  unfold uninformed
  rw [List.filterMap_eq_nil_iff]
  rintro ⟨name, st⟩ he
  have hi := (ht _ he).informed
  cases hs : st.status <;> cases hinfo : st.info <;> simp_all

end TeamTracker

/-- Whatever team records the tracker is fed from nothing, every entry keeps no player pending
both addition and removal, removals pending only for a team that predates the recording, and
the display information of a team created during it; so every created or recreated team is
written back with a create record, and none is left out for want of display information. -/
theorem team_entries_coherent (rs : List TeamRecord) :
    (∀ name st, (name, st) ∈ (rs.foldl TeamTracker.onTeam {}).teams.entries →
      st.Coherent ∧
        (st.status = .created ∨ st.status = .recreated → ∀ time, ∃ info, st.info = some info ∧
          (⟨time, .typed (.team ⟨name, .create info st.pendingAdd.elements⟩)⟩ : TimedRecord) ∈
            (rs.foldl TeamTracker.onTeam {}).synthesize time)) ∧
      (rs.foldl TeamTracker.onTeam {}).uninformed = [] := by
  have ht := TeamTracker.coherent_foldl_onTeam rs (t := {}) fun _ h => by cases h
  exact ⟨fun name st he => ⟨ht _ he, fun hs time =>
    TeamTracker.Coherent.create_mem_synthesize ht he hs time⟩, TeamTracker.uninformed_eq_nil ht⟩

end SessionSquash
