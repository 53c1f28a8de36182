import SessionSquash.Proofs.Squash.Teams

namespace SessionSquash

set_option autoImplicit false

open ReplayView

namespace TeamView

/-- What a team action makes of the team it names. -/
def step : TeamAction → Option TeamView → Option TeamView
  | .create info players, _ => some { info, players := KeySet.ofList players }
  | .remove, _ => none
  | .update info, o => o.map fun t => { t with info }
  | .addPlayers players, o =>
    o.map fun t => { t with players := players.foldl KeySet.insert t.players }
  | .removePlayers players, o =>
    o.map fun t => { t with players := players.foldl KeySet.erase t.players }

end TeamView

/-- A table of teams as a client keeps it: sorted by name, each team's players sorted. -/
def TeamsWF (m : KeyMap String TeamView) : Prop :=
  m.Sorted ∧ ∀ k t, m.find? k = some t → t.players.Sorted

/-- A team action fits what the table holds under its name, and every membership change it
makes changes the membership it names: a player added is not a member, a player removed is
one, and no player is named twice. -/
def TeamAction.changes : TeamAction → Option TeamView → Bool
  | .create .., o => o.isNone
  | .remove, o => o.isSome
  | .update _, o => o.isSome
  | .addPlayers players, some t => decide players.Nodup && players.all fun p => !t.players.contains p
  | .removePlayers players, some t => decide players.Nodup && players.all t.players.contains
  | _, none => false

/-- Each team record changes the teams replayed before it, as `TeamAction.changes` asks. -/
def teamsChangeFrom : KeyMap String TeamView → List TeamRecord → Bool
  | _, [] => true
  | m, r :: rest => r.action.changes (m.find? r.name) &&
      teamsChangeFrom (({ teams := m } : ReplayView).team r).teams rest

theorem teams_modifyTeam (m : KeyMap String TeamView) (name : String) (f : TeamView → TeamView) :
    (({ teams := m } : ReplayView).modifyTeam name f).teams = m.update name (Option.map f) := by
  unfold modifyTeam KeyMap.update
  cases h : m.find? name with
  | none => exact (KeyMap.erase_of_find?_eq_none h).symm
  | some t => rfl

/-- A team record rewrites the one team it names, as `TeamView.step` says. -/
theorem teams_team (m : KeyMap String TeamView) (r : TeamRecord) :
    (({ teams := m } : ReplayView).team r).teams = m.update r.name (TeamView.step r.action) := by
  obtain ⟨name, action⟩ := r
  cases action with
  | create info players => rfl
  | remove => rfl
  | update info => exact teams_modifyTeam m name _
  | addPlayers players => exact teams_modifyTeam m name _
  | removePlayers players => exact teams_modifyTeam m name _

theorem foldl_team (v : ReplayView) (rs : List TeamRecord) :
    rs.foldl ReplayView.team v =
      { v with
        teams := rs.foldl (fun m r => (({ teams := m } : ReplayView).team r).teams) v.teams } := by
  induction rs generalizing v with
  | nil => rfl
  | cons r rest ih =>
    rw [List.foldl_cons, ih, team_eq]
    rfl

theorem TeamsWF.team {m : KeyMap String TeamView} (hm : TeamsWF m) (r : TeamRecord) :
    TeamsWF (({ teams := m } : ReplayView).team r).teams := by
  refine ⟨team_sorted hm.1 r, fun k t hk => ?_⟩
  rw [teams_team, KeyMap.find?_update] at hk
  split at hk
  · cases hr : r.action with
    | create info players =>
      rw [hr] at hk
      cases hk
      exact KeySet.sorted_empty.foldl_insert players
    | remove => rw [hr] at hk; cases hk
    | update info =>
      rw [hr, TeamView.step] at hk
      obtain ⟨t₀, h₀, rfl⟩ := Option.map_eq_some_iff.mp hk
      exact hm.2 _ t₀ h₀
    | addPlayers players =>
      rw [hr, TeamView.step] at hk
      obtain ⟨t₀, h₀, rfl⟩ := Option.map_eq_some_iff.mp hk
      exact (hm.2 _ t₀ h₀).foldl_insert players
    | removePlayers players =>
      rw [hr, TeamView.step] at hk
      obtain ⟨t₀, h₀, rfl⟩ := Option.map_eq_some_iff.mp hk
      exact (hm.2 _ t₀ h₀).foldl_erase players
  · exact hm.2 k t hk

namespace TeamState

variable {st : TeamState} {P₀ P : KeySet String}

theorem status_addPlayers (st : TeamState) (players : List String) :
    (st.addPlayers players).status = st.status ∧ (st.addPlayers players).info = st.info := by
  induction players generalizing st with
  | nil => exact ⟨rfl, rfl⟩
  | cons p rest ih =>
    simp only [addPlayers, List.foldl_cons] at ih ⊢
    split <;> exact ih _

theorem status_removePlayers (st : TeamState) (players : List String) :
    (st.removePlayers players).status = st.status ∧ (st.removePlayers players).info = st.info := by
  induction players generalizing st with
  | nil => exact ⟨rfl, rfl⟩
  | cons p rest ih =>
    simp only [removePlayers, List.foldl_cons] at ih ⊢
    split
    · exact ih _
    · split <;> exact ih _

/-- Pending changes that take the players `P₀` at the start to the players `P` now: a player is
pending addition when a member now but not at the start, pending removal the other way round. -/
structure Balances (st : TeamState) (P₀ P : KeySet String) : Prop where
  addSorted : st.pendingAdd.Sorted
  removeSorted : st.pendingRemove.Sorted
  add : ∀ p, p ∈ st.pendingAdd.elements ↔ p ∈ P.elements ∧ p ∉ P₀.elements
  remove : ∀ p, p ∈ st.pendingRemove.elements ↔ p ∉ P.elements ∧ p ∈ P₀.elements

theorem balances_fresh (status : TeamStatus) (info : Option TeamInfo) (P₀ : KeySet String) :
    ({ status, info } : TeamState).Balances P₀ P₀ where
  addSorted := KeySet.sorted_empty
  removeSorted := KeySet.sorted_empty
  add p := by simp
  remove p := by simp

/-- Adding a player who is not a member drops a pending removal of them, or makes them a
pending addition. -/
theorem Balances.addPlayers (h : st.Balances P₀ P) {players : List String} (hnd : players.Nodup)
    (hps : ∀ p ∈ players, p ∉ P.elements) :
    (st.addPlayers players).Balances P₀ (players.foldl KeySet.insert P) := by
  induction players generalizing st P with
  | nil => exact h
  | cons p rest ih =>
    have hp : p ∉ P.elements := hps p List.mem_cons_self
    have hrest : ∀ q ∈ rest, q ∉ (P.insert p).elements := fun q hq hmem => by
      rcases KeySet.mem_insert.mp hmem with rfl | hmem
      · exact (List.nodup_cons.mp hnd).1 hq
      · exact hps q (List.mem_cons_of_mem _ hq) hmem
    have hstep : (st.addPlayers [p]).Balances P₀ (P.insert p) := by
      simp only [TeamState.addPlayers, List.foldl_cons, List.foldl_nil]
      split
      · rename_i hrem
        have hp₀ := ((h.remove p).mp (KeySet.contains_iff_mem.mp hrem)).2
        refine ⟨h.addSorted, h.removeSorted.erase p, fun q => ?_, fun q => ?_⟩
        · rw [h.add q, KeySet.mem_insert]
          by_cases hq : q = p
          · subst hq; simp [hp, hp₀]
          · simp [hq]
        · rw [KeySet.mem_erase, h.remove q, KeySet.mem_insert]
          by_cases hq : q = p
          · subst hq; simp
          · simp [hq]
      · rename_i hrem
        have hp₀ : p ∉ P₀.elements := fun hp₀ =>
          hrem (KeySet.contains_iff_mem.mpr ((h.remove p).mpr ⟨hp, hp₀⟩))
        refine ⟨h.addSorted.insert p, h.removeSorted, fun q => ?_, fun q => ?_⟩
        · rw [KeySet.mem_insert, h.add q, KeySet.mem_insert]
          by_cases hq : q = p
          · subst hq; simp [hp₀]
          · simp [hq]
        · rw [h.remove q, KeySet.mem_insert]
          by_cases hq : q = p
          · subst hq; simp [hp₀]
          · simp [hq]
    exact ih hstep (List.nodup_cons.mp hnd).2 hrest

/-- In a team changed during the recording, removing a member drops a pending addition of
them, or makes them a pending removal. -/
theorem Balances.removePlayers (h : st.Balances P₀ P) (hs : st.status = .updated)
    {players : List String} (hnd : players.Nodup) (hps : ∀ p ∈ players, p ∈ P.elements) :
    (st.removePlayers players).Balances P₀ (players.foldl KeySet.erase P) := by
  induction players generalizing st P with
  | nil => exact h
  | cons p rest ih =>
    have hp : p ∈ P.elements := hps p List.mem_cons_self
    have hrest : ∀ q ∈ rest, q ∈ (P.erase p).elements := fun q hq =>
      KeySet.mem_erase.mpr ⟨hps q (List.mem_cons_of_mem _ hq),
        fun e => (List.nodup_cons.mp hnd).1 (e ▸ hq)⟩
    have hstep : (st.removePlayers [p]).Balances P₀ (P.erase p) := by
      simp only [TeamState.removePlayers, List.foldl_cons, List.foldl_nil, hs, beq_self_eq_true,
        ↓reduceIte]
      split
      · rename_i hadd
        have hp₀ := ((h.add p).mp (KeySet.contains_iff_mem.mp hadd)).2
        refine ⟨h.addSorted.erase p, h.removeSorted, fun q => ?_, fun q => ?_⟩
        · rw [KeySet.mem_erase, h.add q, KeySet.mem_erase]
          by_cases hq : q = p
          · subst hq; simp
          · simp [hq]
        · rw [h.remove q, KeySet.mem_erase]
          by_cases hq : q = p
          · subst hq; simp [hp₀]
          · simp [hq]
      · rename_i hadd
        have hp₀ : p ∈ P₀.elements := Classical.byContradiction fun hp₀ =>
          hadd (KeySet.contains_iff_mem.mpr ((h.add p).mpr ⟨hp, hp₀⟩))
        refine ⟨h.addSorted, h.removeSorted.insert p, fun q => ?_, fun q => ?_⟩
        · rw [h.add q, KeySet.mem_erase]
          by_cases hq : q = p
          · subst hq; simp [hp₀]
          · simp [hq]
        · rw [KeySet.mem_insert, h.remove q, KeySet.mem_erase]
          by_cases hq : q = p
          · subst hq; simp [hp₀]
          · simp [hq]
    exact ih hstep ((status_removePlayers st [p]).1.trans hs) (List.nodup_cons.mp hnd).2 hrest

variable {start now : Option TeamView}

/-- A team held whole: its information known, its members pending addition, nothing pending
removal. -/
def Whole (st : TeamState) (now : Option TeamView) : Prop :=
  st.pendingRemove = {} ∧ st.pendingAdd.Sorted ∧
    ∃ info, st.info = some info ∧ now = some ⟨info, st.pendingAdd⟩

/-- A tracker's entry for a team, against the team at the start and the team now. A team
created during the recording, for the first time or again, is held whole; a team changed during
it holds its newest information and the changes to its members. -/
def Spans (st : TeamState) (start now : Option TeamView) : Prop :=
  match st.status with
  | .created => start = none ∧ st.Whole now
  | .recreated => start.isSome ∧ st.Whole now
  | .removed => start.isSome ∧ now = none
  | .updated => ∃ t₀ t, start = some t₀ ∧ now = some t ∧ t.info = st.info.getD t₀.info ∧
      st.Balances t₀.players t.players

theorem spans_created (hs : st.status = .created) :
    st.Spans start now ↔ start = none ∧ st.Whole now := by
  unfold Spans
  rw [hs]

theorem spans_recreated (hs : st.status = .recreated) :
    st.Spans start now ↔ start.isSome ∧ st.Whole now := by
  unfold Spans
  rw [hs]

theorem spans_removed (hs : st.status = .removed) :
    st.Spans start now ↔ start.isSome ∧ now = none := by
  unfold Spans
  rw [hs]

theorem spans_updated (hs : st.status = .updated) :
    st.Spans start now ↔ ∃ t₀ t, start = some t₀ ∧ now = some t ∧
      t.info = st.info.getD t₀.info ∧ st.Balances t₀.players t.players := by
  unfold Spans
  rw [hs]

theorem whole_create (status : TeamStatus) (info : TeamInfo) (players : List String)
    (o : Option TeamView) :
    (({ status } : TeamState).apply (.create info players)).status = status ∧
      (({ status } : TeamState).apply (.create info players)).Whole
        (TeamView.step (.create info players) o) := by
  simp only [TeamState.apply]
  rw [addPlayers_eq rfl]
  exact ⟨rfl, rfl, KeySet.sorted_empty.foldl_insert players, info, rfl, rfl⟩

theorem Whole.ne_none (h : st.Whole now) : now ≠ none := by
  obtain ⟨-, -, _, -, rfl⟩ := h
  exact Option.some_ne_none _

/-- A team removed that existed at the start. -/
theorem spans_removed_mk (h : start.isSome = true) :
    ({ status := .removed } : TeamState).Spans start none :=
  (spans_removed rfl).mpr ⟨h, rfl⟩

theorem Whole.update (h : st.Whole now) (info : TeamInfo) :
    (st.apply (.update info)).Whole (TeamView.step (.update info) now) := by
  obtain ⟨hrem, hsorted, _, _, rfl⟩ := h
  exact ⟨hrem, hsorted, info, rfl, rfl⟩

theorem Whole.addPlayers (h : st.Whole now) (players : List String) :
    (st.apply (.addPlayers players)).Whole (TeamView.step (.addPlayers players) now) := by
  obtain ⟨hrem, hsorted, info, hi, rfl⟩ := h
  show (st.addPlayers players).Whole _
  rw [addPlayers_eq hrem]
  exact ⟨hrem, hsorted.foldl_insert players, info, hi, rfl⟩

theorem Whole.removePlayers (h : st.Whole now) (hs : st.status ≠ .updated) (players : List String) :
    (st.apply (.removePlayers players)).Whole (TeamView.step (.removePlayers players) now) := by
  obtain ⟨hrem, hsorted, info, hi, rfl⟩ := h
  show (st.removePlayers players).Whole _
  rw [removePlayers_eq_of_ne hs]
  exact ⟨hrem, hsorted.foldl_erase players, info, hi, rfl⟩

theorem changes_addPlayers {players : List String} {t : TeamView} :
    (TeamAction.addPlayers players).changes (some t) = true ↔
      players.Nodup ∧ ∀ p ∈ players, p ∉ t.players.elements := by
  simp [TeamAction.changes, ← KeySet.contains_iff_mem]

theorem changes_removePlayers {players : List String} {t : TeamView} :
    (TeamAction.removePlayers players).changes (some t) = true ↔
      players.Nodup ∧ ∀ p ∈ players, p ∈ t.players.elements := by
  simp [TeamAction.changes, ← KeySet.contains_iff_mem]

/-- A team first seen changed stands as it was at the start, with nothing pending. -/
theorem spans_fresh (t₀ : TeamView) :
    ({ status := .updated } : TeamState).Spans (some t₀) (some t₀) :=
  (spans_updated rfl).mpr ⟨t₀, t₀, rfl, rfl, rfl, balances_fresh _ _ _⟩

theorem Spans.update (h : st.Spans start now) (hs : st.status = .updated) (info : TeamInfo) :
    (st.apply (.update info)).Spans start (TeamView.step (.update info) now) := by
  obtain ⟨t₀, t, rfl, rfl, -, hb⟩ := (spans_updated hs).mp h
  have hs' : (st.apply (.update info)).status = .updated := hs
  exact (spans_updated hs').mpr ⟨t₀, { t with info }, rfl, rfl, rfl,
    ⟨hb.addSorted, hb.removeSorted, hb.add, hb.remove⟩⟩

theorem Spans.addPlayers (h : st.Spans start now) (hs : st.status = .updated) {players : List String}
    (ha : (TeamAction.addPlayers players).changes now = true) :
    (st.apply (.addPlayers players)).Spans start (TeamView.step (.addPlayers players) now) := by
  obtain ⟨t₀, t, rfl, rfl, hinfo, hb⟩ := (spans_updated hs).mp h
  obtain ⟨hnd, hps⟩ := changes_addPlayers.mp ha
  obtain ⟨hs', hi'⟩ := status_addPlayers st players
  show (st.addPlayers players).Spans _ _
  rw [spans_updated (hs'.trans hs), hi']
  exact ⟨t₀, _, rfl, rfl, hinfo, hb.addPlayers hnd hps⟩

theorem Spans.removePlayers (h : st.Spans start now) (hs : st.status = .updated)
    {players : List String} (ha : (TeamAction.removePlayers players).changes now = true) :
    (st.apply (.removePlayers players)).Spans start (TeamView.step (.removePlayers players) now) := by
  obtain ⟨t₀, t, rfl, rfl, hinfo, hb⟩ := (spans_updated hs).mp h
  obtain ⟨hnd, hps⟩ := changes_removePlayers.mp ha
  obtain ⟨hs', hi'⟩ := status_removePlayers st players
  show (st.removePlayers players).Spans _ _
  rw [spans_updated (hs'.trans hs), hi']
  exact ⟨t₀, _, rfl, rfl, hinfo, hb.removePlayers hs hnd hps⟩

/-- What the tracker makes of its entry for the team an action names. -/
def step (a : TeamAction) : Option TeamState → Option TeamState
  | none =>
    let status : TeamStatus :=
      match a with
      | .create .. => .created
      | .remove => .removed
      | _ => .updated
    some (({ status } : TeamState).apply a)
  | some team =>
    match a, team.status with
    | .remove, .created => none
    | .remove, _ => some { status := .removed }
    | .create .., .removed => some (({ status := .recreated } : TeamState).apply a)
    | action, _ => some (team.apply action)

end TeamState

/-- The tracker's entry for a team, or its lack of one, against the team at the start and the
team now: a team the tracker has no entry for is as it was. -/
def TeamState.SpansOpt : Option TeamState → Option TeamView → Option TeamView → Prop
  | none, start, now => now = start
  | some st, start, now => st.Spans start now

namespace TeamState

/-- One action keeps an entry spanning the team at the start and the team now, when it changes
what it names. -/
theorem spansOpt_step {e : Option TeamState} {start now : Option TeamView}
    (h : SpansOpt e start now) {a : TeamAction} (ha : a.changes now = true) :
    SpansOpt (step a e) start (TeamView.step a now) := by
  cases e with
  | none =>
    change now = start at h
    subst h
    cases a with
    | create info players =>
      obtain rfl : now = none := Option.isNone_iff_eq_none.mp ha
      obtain ⟨hs, hw⟩ := whole_create .created info players none
      exact (spans_created hs).mpr ⟨rfl, hw⟩
    | remove => exact spans_removed_mk ha
    | update info =>
      obtain ⟨t₀, rfl⟩ := Option.isSome_iff_exists.mp ha
      exact (spans_fresh t₀).update rfl info
    | addPlayers players =>
      cases now with
      | none => cases ha
      | some t₀ => exact (spans_fresh t₀).addPlayers rfl ha
    | removePlayers players =>
      cases now with
      | none => cases ha
      | some t₀ => exact (spans_fresh t₀).removePlayers rfl ha
  | some st =>
    change st.Spans start now at h
    cases hs : st.status with
    | created =>
      obtain ⟨hstart, hw⟩ := (spans_created hs).mp h
      cases a with
      | create => exact absurd (Option.isNone_iff_eq_none.mp ha) hw.ne_none
      | remove =>
        simp only [step, hs]
        exact hstart.symm
      | update info =>
        simp only [step]
        have hs' : (st.apply (.update info)).status = .created := hs
        exact (spans_created hs').mpr ⟨hstart, hw.update info⟩
      | addPlayers players =>
        simp only [step]
        exact (spans_created ((status_addPlayers st players).1.trans hs)).mpr
          ⟨hstart, hw.addPlayers players⟩
      | removePlayers players =>
        simp only [step]
        exact (spans_created ((status_removePlayers st players).1.trans hs)).mpr
          ⟨hstart, hw.removePlayers (by rw [hs]; decide) players⟩
    | recreated =>
      obtain ⟨hstart, hw⟩ := (spans_recreated hs).mp h
      cases a with
      | create => exact absurd (Option.isNone_iff_eq_none.mp ha) hw.ne_none
      | remove =>
        simp only [step, hs]
        exact spans_removed_mk hstart
      | update info =>
        simp only [step]
        have hs' : (st.apply (.update info)).status = .recreated := hs
        exact (spans_recreated hs').mpr ⟨hstart, hw.update info⟩
      | addPlayers players =>
        simp only [step]
        exact (spans_recreated ((status_addPlayers st players).1.trans hs)).mpr
          ⟨hstart, hw.addPlayers players⟩
      | removePlayers players =>
        simp only [step]
        exact (spans_recreated ((status_removePlayers st players).1.trans hs)).mpr
          ⟨hstart, hw.removePlayers (by rw [hs]; decide) players⟩
    | removed =>
      obtain ⟨hstart, rfl⟩ := (spans_removed hs).mp h
      cases a with
      | create info players =>
        simp only [step, hs]
        obtain ⟨hs', hw⟩ := whole_create .recreated info players none
        exact (spans_recreated hs').mpr ⟨hstart, hw⟩
      | _ => cases ha
    | updated =>
      cases a with
      | create =>
        obtain ⟨t₀, t, -, hnow, -⟩ := (spans_updated hs).mp h
        rw [hnow] at ha
        cases ha
      | remove =>
        obtain ⟨t₀, t, hstart, -⟩ := (spans_updated hs).mp h
        simp only [step, hs]
        exact spans_removed_mk (by rw [hstart]; rfl)
      | update info =>
        simp only [step]
        exact h.update hs info
      | addPlayers players =>
        simp only [step]
        exact h.addPlayers hs ha
      | removePlayers players =>
        simp only [step]
        exact h.removePlayers hs ha

end TeamState

/-- A team record rewrites the tracker's entry for the team it names, as `TeamState.step`
says. -/
theorem TeamTracker.onTeam_eq (t : TeamTracker) (r : TeamRecord) :
    t.onTeam r = { teams := t.teams.update r.name (TeamState.step r.action) } := by
  obtain ⟨name, action⟩ := r
  unfold onTeam KeyMap.update
  cases h : t.teams.find? name with
  | none => cases action <;> rfl
  | some team =>
    obtain ⟨status, info, pendingAdd, pendingRemove⟩ := team
    cases action <;> cases status <;> rfl

namespace TeamTracker

variable {t : TeamTracker} {T V : KeyMap String TeamView}

/-- A tracker against the table at the start and the table now: each team's entry, or its lack
of one, spans the team at the start and the team now. -/
structure Spans (t : TeamTracker) (T V : KeyMap String TeamView) : Prop where
  sorted : t.teams.Sorted
  entries : ∀ k, TeamState.SpansOpt (t.teams.find? k) (T.find? k) (V.find? k)

theorem spans_empty (T : KeyMap String TeamView) : ({} : TeamTracker).Spans T T :=
  ⟨KeyMap.sorted_empty, fun _ => rfl⟩

/-- A team record that changes what it names moves the tracker as it moves the table. -/
theorem Spans.onTeam (ht : t.Spans T V) {r : TeamRecord}
    (hr : r.action.changes (V.find? r.name) = true) :
    (t.onTeam r).Spans T (({ teams := V } : ReplayView).team r).teams := by
  rw [onTeam_eq, teams_team]
  refine ⟨ht.sorted.update _ _, fun k => ?_⟩
  rw [KeyMap.find?_update, KeyMap.find?_update]
  by_cases hk : r.name = k
  · subst hk
    rw [if_pos rfl, if_pos rfl]
    exact TeamState.spansOpt_step (ht.entries r.name) hr
  · rw [if_neg hk, if_neg hk]
    exact ht.entries k

/-- Along a run of records that each change what they name, the tracker spans the table at the
start and the table the run reaches, which stays one a client may hold. -/
theorem Spans.foldl : ∀ (rs : List TeamRecord) {t : TeamTracker} {V : KeyMap String TeamView},
    t.Spans T V → TeamsWF V → teamsChangeFrom V rs = true →
      (rs.foldl TeamTracker.onTeam t).Spans T
          (rs.foldl (fun m r => (({ teams := m } : ReplayView).team r).teams) V) ∧
        TeamsWF (rs.foldl (fun m r => (({ teams := m } : ReplayView).team r).teams) V)
  | [], _, _, ht, hV, _ => ⟨ht, hV⟩
  | r :: rest, _, _, ht, hV, hrs => by
    simp only [teamsChangeFrom, Bool.and_eq_true] at hrs
    exact Spans.foldl rest (ht.onTeam hrs.1) (hV.team r) hrs.2

end TeamTracker

/-- What the records written for one team make of what a table holds under its name. -/
def TeamState.replayOn (name : String) (st : TeamState) (o : Option TeamView) : Option TeamView :=
  (TeamTracker.teamRecords name st).foldl (fun o r => TeamView.step r.action o) o

theorem TeamTracker.name_of_mem_teamRecords {name : String} {st : TeamState} {r : TeamRecord}
    (h : r ∈ teamRecords name st) : r.name = name := by
  unfold teamRecords at h
  cases hs : st.status <;> cases hi : st.info <;> simp [hs, hi] at h <;> grind

/-- Records that all name one team rewrite that team only, one after another. -/
theorem foldl_team_named {name : String} : ∀ {rs : List TeamRecord}, (∀ r ∈ rs, r.name = name) →
    ∀ {m : KeyMap String TeamView}, m.Sorted →
      rs.foldl (fun m r => (({ teams := m } : ReplayView).team r).teams) m =
        m.update name fun o => rs.foldl (fun o r => TeamView.step r.action o) o
  | [], _, _, hm => (KeyMap.update_of_eq hm rfl).symm
  | r :: rest, hr, m, hm => by
    rw [List.foldl_cons, teams_team, hr r List.mem_cons_self,
      foldl_team_named (fun q hq => hr q (List.mem_cons_of_mem _ hq)) (hm.update _ _),
      KeyMap.update_update hm]
    rfl

theorem foldl_apply_team_records (time : Int64) (rs : List TeamRecord) (v : ReplayView) :
    (rs.map fun r => (⟨time, .typed (.team r)⟩ : TimedRecord)).foldl ReplayView.apply v =
      rs.foldl ReplayView.team v := by
  induction rs generalizing v with
  | nil => rfl
  | cons r rest ih => exact ih (v.team r)

/-- The records written for a list of teams, replayed, rewrite each team by its own records. -/
theorem foldl_apply_teamEntries (time : Int64) :
    ∀ (l : List (String × TeamState)) (v : ReplayView), v.teams.Sorted →
      (l.flatMap fun p => (TeamTracker.teamRecords p.1 p.2).map fun r =>
          (⟨time, .typed (.team r)⟩ : TimedRecord)).foldl ReplayView.apply v =
        { v with teams := l.foldl (fun m p => m.update p.1 (TeamState.replayOn p.1 p.2)) v.teams }
  | [], _, _ => rfl
  | p :: rest, v, hv => by
    rw [List.flatMap_cons, List.foldl_append, foldl_apply_team_records, foldl_team,
      foldl_team_named (fun _ h => TeamTracker.name_of_mem_teamRecords h) hv,
      foldl_apply_teamEntries time rest _ (hv.update _ _)]
    rfl

namespace TeamState

variable {st : TeamState} {start now : Option TeamView}

/-- A team held whole is written as one create, after a removal when it is created again. -/
theorem Whole.replayOn (h : st.Whole now) (hs : st.status = .created ∨ st.status = .recreated)
    (name : String) (o : Option TeamView) : st.replayOn name o = now := by
  obtain ⟨-, hsorted, info, hi, rfl⟩ := h
  unfold replayOn TeamTracker.teamRecords
  rcases hs with hs | hs <;>
    simp [hs, hi, TeamView.step, KeySet.ofList_elements hsorted]

/-- A team changed during the recording is written as its newest information, then the pending
additions, then the pending removals. -/
theorem replayOn_updated (hs : st.status = .updated) (name : String) (t₀ : TeamView) :
    st.replayOn name (some t₀) = some ⟨st.info.getD t₀.info,
      st.pendingRemove.elements.foldl KeySet.erase
        (st.pendingAdd.elements.foldl KeySet.insert t₀.players)⟩ := by
  obtain ⟨status, info, ⟨add⟩, ⟨rem⟩⟩ := st
  subst hs
  unfold replayOn TeamTracker.teamRecords
  cases info <;> cases add <;> cases rem <;> simp [TeamView.step, KeySet.isEmpty]

/-- Pending changes that balance take the players at the start to the players now. -/
theorem Balances.players_eq {P₀ P : KeySet String} (hb : st.Balances P₀ P) (h₀ : P₀.Sorted)
    (hP : P.Sorted) :
    st.pendingRemove.elements.foldl KeySet.erase
      (st.pendingAdd.elements.foldl KeySet.insert P₀) = P := by
  refine KeySet.ext ((h₀.foldl_insert _).foldl_erase _) hP fun p => ?_
  rw [KeySet.mem_foldl_erase, KeySet.mem_foldl_insert, hb.add, hb.remove]
  by_cases hp : p ∈ P.elements <;> by_cases hp₀ : p ∈ P₀.elements <;> simp [hp, hp₀]

/-- An entry spanning the team at the start and the team now is written as records that take
the one to the other. -/
theorem Spans.replayOn (h : st.Spans start now)
    (hstart : ∀ t₀, start = some t₀ → t₀.players.Sorted)
    (hnow : ∀ t, now = some t → t.players.Sorted)
    (name : String) : st.replayOn name start = now := by
  cases hs : st.status with
  | created => exact ((spans_created hs).mp h).2.replayOn (.inl hs) name start
  | recreated => exact ((spans_recreated hs).mp h).2.replayOn (.inr hs) name start
  | removed =>
    obtain ⟨-, rfl⟩ := (spans_removed hs).mp h
    unfold TeamState.replayOn TeamTracker.teamRecords
    rw [hs]
    rfl
  | updated =>
    obtain ⟨t₀, t, rfl, rfl, hinfo, hb⟩ := (spans_updated hs).mp h
    rw [replayOn_updated hs, hb.players_eq (hstart t₀ rfl) (hnow t rfl), ← hinfo]

end TeamState

/-- From any table of teams a client may hold, replaying what the tracker writes for a run of
team records reaches what the run reaches, when each record changes what it names: a create
names an absent team, every other action a present one, and each membership change adds only
players who are not members and removes only members, none of them twice. -/
theorem TeamTracker.synthesize_replays_from {v : ReplayView} (hv : TeamsWF v.teams)
    {rs : List TeamRecord} (hrs : teamsChangeFrom v.teams rs = true) (time : Int64) :
    ((rs.foldl TeamTracker.onTeam {}).synthesize time).foldl ReplayView.apply v =
      rs.foldl ReplayView.team v := by
  obtain ⟨ht, hV⟩ := Spans.foldl rs (spans_empty v.teams) hv hrs
  unfold synthesize
  rw [foldl_apply_teamEntries time _ v hv.1, foldl_team]
  congr 1
  apply KeyMap.ext (hv.1.foldl_update Prod.fst _ _) hV.1
  intro k
  rw [KeyMap.find?_foldl_update_entries_of_find? _ ht.sorted]
  have hk := ht.entries k
  cases he : (rs.foldl TeamTracker.onTeam {}).teams.find? k with
  | none =>
    rw [he] at hk
    exact hk.symm
  | some st =>
    rw [he] at hk
    exact hk.replayOn (fun t₀ h => hv.2 k t₀ h) (fun t h => hV.2 k t h) k

/-- A team that predates the recording, with one member. -/
def redWithAnn : ReplayView :=
  { teams := KeyMap.empty.insert "red" ⟨⟨"Red", "", "", .on⟩, KeySet.ofList ["ann"]⟩ }

/-- The member added again, then removed. -/
def annAddedRemoved : List TeamRecord :=
  [⟨"red", .addPlayers ["ann"]⟩, ⟨"red", .removePlayers ["ann"]⟩]

/-- Adding a member is no change of membership, and the two records cancel in the tracker: it
writes nothing, so the written records keep the player the records remove. -/
theorem synthesize_annAddedRemoved :
    teamsChangeFrom redWithAnn.teams annAddedRemoved = false ∧
      ((((annAddedRemoved.foldl TeamTracker.onTeam {}).synthesize 0).foldl ReplayView.apply
          redWithAnn).teams.find? "red").map (·.players.elements) = some ["ann"] ∧
      ((annAddedRemoved.foldl ReplayView.team redWithAnn).teams.find? "red").map
          (·.players.elements) = some [] := by
  decide

end SessionSquash
