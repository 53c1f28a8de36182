import SessionSquash.Squash.Team
import SessionSquash.Proofs.Replay.Sort

namespace SessionSquash

set_option autoImplicit false

open ReplayView

/-- A team record fits a table of teams: a create names an absent team, every other action
a present one. -/
def TeamRecord.fits (teams : KeyMap String TeamView) (r : TeamRecord) : Bool :=
  match r.action with
  | .create .. => (teams.find? r.name).isNone
  | _ => (teams.find? r.name).isSome

namespace TeamState

/-- What a viewer sees of a team, once its display information is known. -/
def view (st : TeamState) : Option TeamView := st.info.map fun info => ⟨info, st.pendingAdd⟩

/-- A team created during the recording, with its information known and no removal
pending. -/
structure Created (st : TeamState) : Prop where
  status : st.status = .created
  info : ∃ info, st.info = some info
  pendingRemove : st.pendingRemove = {}
  sorted : st.pendingAdd.Sorted

variable {st : TeamState}

/-- With no removal pending, adding players only adds them. -/
theorem addPlayers_eq (h : st.pendingRemove = {}) (players : List String) :
    st.addPlayers players = { st with pendingAdd := players.foldl KeySet.insert st.pendingAdd } := by
  induction players generalizing st with
  | nil => rfl
  | cons p rest ih =>
    have hnot : st.pendingRemove.contains p = false := by rw [h]; rfl
    simp only [addPlayers, List.foldl_cons, hnot] at ih ⊢
    exact ih h

/-- Outside a team changed during the recording, removing players only forgets pending ones. -/
theorem removePlayers_eq_of_ne (h : st.status ≠ .updated) (players : List String) :
    st.removePlayers players = { st with pendingAdd := players.foldl KeySet.erase st.pendingAdd } := by
  induction players generalizing st with
  | nil => rfl
  | cons p rest ih =>
    simp only [removePlayers, List.foldl_cons] at ih ⊢
    split
    · exact ih h
    · rename_i hc
      have hnot : (st.status == .updated) ≠ true := by simpa using h
      rw [if_neg hnot, KeySet.erase_of_contains_eq_false (Bool.eq_false_iff.mpr hc)]
      exact ih h

/-- In a team created during the recording, removing players only forgets pending ones. -/
theorem removePlayers_eq (h : st.status = .created) (players : List String) :
    st.removePlayers players = { st with pendingAdd := players.foldl KeySet.erase st.pendingAdd } :=
  removePlayers_eq_of_ne (by rw [h]; decide) players

theorem Created.view_eq (h : st.Created) : ∃ info, st.info = some info ∧
    st.view = some ⟨info, st.pendingAdd⟩ := by
  obtain ⟨info, hi⟩ := h.info
  exact ⟨info, hi, by simp [view, hi]⟩

end TeamState

namespace TeamTracker

/-- The teams a tracker stands for. -/
def view (t : TeamTracker) : KeyMap String TeamView := t.teams.filterMapValues TeamState.view

/-- What the tracker keeps while every team record fits. -/
structure Valid (t : TeamTracker) : Prop where
  sorted : t.teams.Sorted
  created : ∀ k st, t.teams.find? k = some st → st.Created

variable {t : TeamTracker}

theorem valid_empty : ({} : TeamTracker).Valid := ⟨KeyMap.sorted_empty, fun _ _ h => by cases h⟩

theorem find?_view (ht : t.teams.Sorted) (k : String) :
    t.view.find? k = (t.teams.find? k).bind TeamState.view :=
  KeyMap.find?_filterMapValues ht _ k

theorem view_update (ht : t.teams.Sorted) (k : String) (f : Option TeamState → Option TeamState) :
    ({ teams := t.teams.update k f } : TeamTracker).view =
      t.view.update k fun _ => (f (t.teams.find? k)).bind TeamState.view :=
  KeyMap.filterMapValues_update ht k f _

/-- A team record that fits the tracker's teams changes them as it changes a view's. -/
theorem view_onTeam (ht : t.Valid) {r : TeamRecord} (hr : r.fits t.view = true) :
    (t.onTeam r).view = (({ teams := t.view } : ReplayView).team r).teams := by
  obtain ⟨name, action⟩ := r
  simp only [TeamRecord.fits, find?_view ht.sorted] at hr
  cases hfind : t.teams.find? name with
  | none =>
    cases action with
    | create info players =>
      simp only [onTeam, hfind, TeamState.apply, KeyMap.insert_eq_update, view_update ht.sorted]
      rw [TeamState.addPlayers_eq rfl]
      rfl
    | _ => simp [hfind] at hr
  | some st =>
    obtain ⟨info, hi, hview⟩ := (ht.created name st hfind).view_eq
    have hstatus := (ht.created name st hfind).status
    have hv : t.view.find? name = some ⟨info, st.pendingAdd⟩ := by
      rw [find?_view ht.sorted, hfind, Option.bind_some, hview]
    cases action with
    | create => simp [hfind, hview] at hr
    | remove =>
      simp only [onTeam, hfind, hstatus, KeyMap.erase_eq_update, view_update ht.sorted]
      rfl
    | update info' =>
      simp only [onTeam, hfind, hstatus, TeamState.apply, KeyMap.insert_eq_update,
        view_update ht.sorted, ReplayView.team, ReplayView.modifyTeam, hv]
      simp [TeamState.view]
    | addPlayers players =>
      simp only [onTeam, hfind, hstatus, TeamState.apply, KeyMap.insert_eq_update,
        view_update ht.sorted, ReplayView.team, ReplayView.modifyTeam, hv,
        TeamState.addPlayers_eq (ht.created name st hfind).pendingRemove]
      simp [TeamState.view, hi]
    | removePlayers players =>
      simp only [onTeam, hfind, hstatus, TeamState.apply, KeyMap.insert_eq_update,
        view_update ht.sorted, ReplayView.team, ReplayView.modifyTeam, hv,
        TeamState.removePlayers_eq hstatus]
      simp [TeamState.view, hi]

theorem Valid.insert (ht : t.Valid) (k : String) {st : TeamState} (h : st.Created) :
    ({ teams := t.teams.insert k st } : TeamTracker).Valid where
  sorted := ht.sorted.insert k st
  created k' st' h' := by
    rw [KeyMap.find?_insert] at h'
    split at h'
    · cases h'
      exact h
    · exact ht.created k' st' h'

theorem Valid.erase (ht : t.Valid) (k : String) : ({ teams := t.teams.erase k } : TeamTracker).Valid where
  sorted := ht.sorted.erase k
  created k' st' h' := by
    rw [KeyMap.find?_erase] at h'
    split at h'
    · cases h'
    · exact ht.created k' st' h'

/-- While team records fit, every team kept stays one created during the recording. -/
theorem Valid.onTeam (ht : t.Valid) {r : TeamRecord} (hr : r.fits t.view = true) :
    (t.onTeam r).Valid := by
  obtain ⟨name, action⟩ := r
  simp only [TeamRecord.fits, find?_view ht.sorted] at hr
  cases hfind : t.teams.find? name with
  | none =>
    cases action with
    | create info players =>
      simp only [TeamTracker.onTeam, hfind, TeamState.apply]
      rw [TeamState.addPlayers_eq rfl]
      exact ht.insert name ⟨rfl, ⟨info, rfl⟩, rfl, KeySet.sorted_empty.foldl_insert players⟩
    | _ => simp [hfind] at hr
  | some st =>
    have hc := ht.created name st hfind
    cases action with
    | create =>
      obtain ⟨_, -, hview⟩ := hc.view_eq
      simp [hfind, hview] at hr
    | remove =>
      simp only [TeamTracker.onTeam, hfind, hc.status]
      exact ht.erase name
    | update info =>
      simp only [TeamTracker.onTeam, hfind, hc.status, TeamState.apply]
      exact ht.insert name ⟨rfl, ⟨info, rfl⟩, hc.pendingRemove, hc.sorted⟩
    | addPlayers players =>
      simp only [TeamTracker.onTeam, hfind, hc.status, TeamState.apply,
        TeamState.addPlayers_eq hc.pendingRemove]
      exact ht.insert name ⟨rfl, hc.info, hc.pendingRemove, hc.sorted.foldl_insert players⟩
    | removePlayers players =>
      simp only [TeamTracker.onTeam, hfind, hc.status, TeamState.apply, TeamState.removePlayers_eq hc.status]
      exact ht.insert name ⟨rfl, hc.info, hc.pendingRemove, hc.sorted.foldl_erase players⟩

theorem teamRecords_of_created {st : TeamState} (h : st.Created) {info : TeamInfo}
    (hi : st.info = some info) (name : String) :
    teamRecords name st = [⟨name, .create info st.pendingAdd.elements⟩] := by
  unfold teamRecords
  rw [h.status]
  simp [hi]

/-- Each kept team replays as one create, which brings back its information and members. -/
theorem foldl_apply_teams (time : Int64) :
    ∀ {l : List (String × TeamState)}, (∀ p ∈ l, p.2.Created) → ∀ {v : ReplayView}, v.WF →
      (l.flatMap fun p => (teamRecords p.1 p.2).map fun r =>
          (⟨time, .typed (.team r)⟩ : TimedRecord)).foldl ReplayView.apply v =
        { v with teams := l.foldl (fun m p => m.update p.1 fun _ => p.2.view) v.teams }
  | [], _, _, _ => rfl
  | p :: rest, h, v, hv => by
    obtain ⟨info, hi, hview⟩ := (h p (.head _)).view_eq
    rw [List.flatMap_cons, List.foldl_append, teamRecords_of_created (h p (.head _)) hi,
      List.map_singleton, List.foldl_cons, List.foldl_nil,
      foldl_apply_teams time (fun q hq => h q (.tail _ hq)) (hv.apply _)]
    simp only [ReplayView.apply, ReplayView.team, KeySet.ofList_elements (h p (.head _)).sorted,
      List.foldl_cons, hview, KeyMap.insert_eq_update]

/-- Replaying what a tracker synthesizes, from a view with no team, brings in exactly the
tracker's teams. -/
theorem foldl_apply_synthesize (ht : t.Valid) (time : Int64) {v : ReplayView} (hv : v.WF)
    (hteams : v.teams = {}) :
    (t.synthesize time).foldl ReplayView.apply v = { v with teams := t.view } := by
  have hcreated : ∀ p ∈ t.teams.entries, p.2.Created :=
    fun p hp => ht.created p.1 p.2 (ht.sorted.find?_eq_some_iff.mpr hp)
  unfold synthesize
  rw [foldl_apply_teams time hcreated hv, hteams,
    KeyMap.foldl_update_entries_empty ht.sorted fun st _ => st.view]
  rfl

end TeamTracker

end SessionSquash
