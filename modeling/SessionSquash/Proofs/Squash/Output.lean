import SessionSquash.Proofs.Squash.Stamps

namespace SessionSquash

set_option autoImplicit false

open ReplayView

namespace TimedRecord

/-- Only a team record changes the teams. -/
theorem teams_change_of_ne_team {r : TimedRecord} (h : ∀ d, r.record ≠ .typed (.team d)) :
    (change r).teams = none := by
  obtain ⟨time, rec⟩ := r
  cases rec with
  | raw => rfl
  | typed p =>
    cases p <;> first
      | rfl
      | (rename_i n; cases n <;> rfl)
      | (simp only [change, payloadChange]; split <;> rfl)
      | exact absurd rfl (h _)

theorem fitsTeams_of_teams_none {r : TimedRecord} (h : (change r).teams = none) (v : ReplayView) :
    r.fitsTeams v = true := by
  unfold TimedRecord.fitsTeams
  split
  · next d hd =>
    obtain ⟨time, rec⟩ := r
    simp only at hd
    subst hd
    cases h
  · rfl

end TimedRecord

open TimedRecord

theorem teamsFitFrom_append (v : ReplayView) (l₁ l₂ : List TimedRecord) :
    teamsFitFrom v (l₁ ++ l₂) = (teamsFitFrom v l₁ && teamsFitFrom (l₁.foldl apply v) l₂) := by
  induction l₁ generalizing v with
  | nil => simp [teamsFitFrom]
  | cons r rest ih => simp [teamsFitFrom, ih, Bool.and_assoc]

/-- Records that leave the teams alone fit any teams. -/
theorem teamsFitFrom_of_teams_none {l : List TimedRecord} (h : ∀ r ∈ l, (change r).teams = none)
    (v : ReplayView) : teamsFitFrom v l = true := by
  induction l generalizing v with
  | nil => rfl
  | cons r rest ih =>
    simp only [teamsFitFrom, Bool.and_eq_true]
    exact ⟨fitsTeams_of_teams_none (h r (.head _)) v, ih (fun x hx => h x (.tail _ hx)) _⟩

theorem teams_apply_of_teams_none {r : TimedRecord} (h : (change r).teams = none) {v : ReplayView}
    (hv : v.WF) : (v.apply r).teams = v.teams := by
  rw [apply_eq_run hv.chunks, Change.run]
  simp only [h]

theorem teams_foldl_apply_of_teams_none {l : List TimedRecord}
    (h : ∀ r ∈ l, (change r).teams = none) {v : ReplayView} (hv : v.WF) :
    (l.foldl apply v).teams = v.teams := by
  induction l generalizing v with
  | nil => rfl
  | cons r rest ih =>
    rw [List.foldl_cons, ih (fun x hx => h x (.tail _ hx)) (hv.apply r),
      teams_apply_of_teams_none (h r (.head _)) hv]

namespace Squasher

section Teams

variable (s : Squasher) (time : Int64)

theorem teams_onEntity (rec : Record) : (s.onEntity time rec).teams = s.teams := by
  unfold Squasher.onEntity
  split
  · rfl
  · split <;> rfl
  · split
    · rfl
    · rfl
    · split <;> rfl
    · rfl

theorem teams_onWorld (rec : Record) : (s.onWorld time rec).teams = s.teams := by
  unfold Squasher.onWorld
  split <;> rfl

theorem teams_onWindow (rec : Record) : (s.onWindow time rec).teams = s.teams := by
  have hother : (if rec.kind == RecordKind.confirmTransaction &&
      s.config.dropTransactionConfirms then
      { s with report.confirmsDropped := s.report.confirmsDropped + 1 }
      else { s with windows := s.windows.onSecondary ⟨time, rec⟩ }).teams = s.teams := by
    split <;> rfl
  unfold Squasher.onWindow
  dsimp only
  split
  · rfl
  · split
    · rfl
    · exact hother
  · split
    · rfl
    · exact hother
  · exact hother

theorem teams_onChunk (rec : Record) : (s.onChunk time rec).teams = s.teams := by
  unfold Squasher.onChunk
  split
  · rfl
  · rfl
  · exact (sameState_onBlock s _).teams
  · exact (sameState_foldl_onBlock _ s).teams
  · rfl

theorem teams_onSession (rec : Record) : (s.onSession time rec).teams = s.teams := by
  unfold Squasher.onSession
  split <;> rfl

end Teams

variable {s : Squasher}

theorem teams_consume_team (s : Squasher) (time : Int64) (d : TeamRecord) :
    (s.consume ⟨time, .typed (.team d)⟩).teams = s.teams.onTeam d :=
  rfl

/-- Taking in a record that is no team record leaves the team tracker as it was. -/
theorem teams_consume_of_ne_team (s : Squasher) {r : TimedRecord}
    (h : ∀ d, r.record ≠ .typed (.team d)) : (s.consume r).teams = s.teams := by
  obtain ⟨time, rec⟩ := r
  unfold Squasher.consume
  cases rec with
  | raw kind data =>
    dsimp only
    split
    · rfl
    · split
      · exact teams_onWorld _ time _
      · exact teams_onWindow _ time _
      · rfl
  | typed p =>
    dsimp only
    split
    · exact teams_onEntity _ time _
    · exact teams_onChunk _ time _
    · exact teams_onWorld _ time _
    · exact teams_onWindow _ time _
    · split
      · next d _ => exact absurd rfl (h d)
      · rfl
    · exact teams_onSession _ time _
    · rfl

/-- Along any run whose team records fit the teams replayed before them, the team tracker
stays valid and stands for the teams the records replay to; the other records, in whatever
order, do not matter. -/
theorem teams_consumeAll : ∀ (l : List TimedRecord) {s : Squasher} {v : ReplayView}, v.WF →
    s.teams.Valid → s.teams.view = v.teams → teamsFitFrom v l = true →
    (s.consumeAll l).teams.Valid ∧ (s.consumeAll l).teams.view = (l.foldl apply v).teams
  | [], _, _, _, ht, hview, _ => ⟨ht, hview⟩
  | r :: rest, s, v, hv, ht, hview, hfit => by
    simp only [teamsFitFrom, Bool.and_eq_true] at hfit
    have hstep : (s.consume r).teams.Valid ∧ (s.consume r).teams.view = (v.apply r).teams := by
      by_cases hteam : ∃ d, r.record = .typed (.team d)
      · obtain ⟨d, hd⟩ := hteam
        obtain ⟨time, rec⟩ := r
        simp only at hd
        subst hd
        have hfits : d.fits s.teams.view = true := by
          rw [hview]
          exact hfit.1
        rw [teams_consume_team]
        refine ⟨ht.onTeam hfits, ?_⟩
        rw [TeamTracker.view_onTeam ht hfits, apply_eq_run hv.chunks, hview]
        rfl
      · have hne : ∀ d, r.record ≠ .typed (.team d) := fun d hd => hteam ⟨d, hd⟩
        rw [teams_consume_of_ne_team s hne, teams_apply_of_teams_none (teams_change_of_ne_team hne) hv]
        exact ⟨ht, hview⟩
    exact teams_consumeAll rest (hv.apply r) hstep.1 hstep.2 hfit.2

end Squasher

namespace TeamTracker

theorem mem_synthesize {t : TeamTracker} {time : Int64} {r : TimedRecord}
    (h : r ∈ t.synthesize time) : r.time = time ∧ ∃ d, r.record = .typed (.team d) := by
  unfold synthesize at h
  obtain ⟨p, -, hr⟩ := List.mem_flatMap.mp h
  obtain ⟨d, -, rfl⟩ := List.mem_map.mp hr
  exact ⟨rfl, d, rfl⟩

/-- Teams kept in increasing name order, each created during the recording, write creates that
each name a team absent from the teams replayed before. -/
theorem teamsFitFrom_teams (time : Int64) :
    ∀ {l : List (String × TeamState)}, (∀ p ∈ l, p.2.Created) →
      l.Pairwise (fun a b => compare a.1 b.1 = .lt) → ∀ {v : ReplayView}, v.WF →
      (∀ p ∈ l, v.teams.find? p.1 = none) →
      teamsFitFrom v (l.flatMap fun p => (teamRecords p.1 p.2).map fun r =>
          (⟨time, .typed (.team r)⟩ : TimedRecord)) = true
  | [], _, _, _, _, _ => rfl
  | (name, st) :: rest, hc, hsorted, v, hv, habsent => by
    obtain ⟨info, hi, -⟩ := (hc (name, st) (.head _)).view_eq
    obtain ⟨hlt, hrest⟩ := List.pairwise_cons.mp hsorted
    rw [List.flatMap_cons, teamRecords_of_created (hc (name, st) (.head _)) hi, List.map_singleton,
      List.singleton_append]
    simp only [teamsFitFrom, Bool.and_eq_true]
    refine ⟨by simp [TimedRecord.fitsTeams, TeamRecord.fits, habsent (name, st) (.head _)], ?_⟩
    refine teamsFitFrom_teams time (fun p hp => hc p (.tail _ hp)) hrest (hv.apply _) ?_
    intro p hp
    have hne : name ≠ p.1 := fun h => by
      have := hlt p hp
      rw [← h, Std.ReflOrd.compare_self] at this
      cases this
    rw [apply_eq_run hv.chunks]
    simp [change, payloadChange, Change.run, ReplayView.team, hne, habsent p (.tail _ hp)]

/-- From a view with no team, the records a valid tracker synthesizes all fit. -/
theorem teamsFitFrom_synthesize {t : TeamTracker} (ht : t.Valid) (time : Int64) {v : ReplayView}
    (hv : v.WF) (hteams : v.teams = {}) : teamsFitFrom v (t.synthesize time) = true :=
  teamsFitFrom_teams time (fun p hp => ht.created p.1 p.2 (ht.sorted.find?_eq_some_iff.mpr hp))
    ht.sorted hv fun p _ => by rw [hteams]; rfl

end TeamTracker

namespace SessionState

theorem mem_synthesizeMaps {s : SessionState} {time : Int64} {r : TimedRecord}
    (h : r ∈ s.synthesizeMaps time) : r.time = time ∧ ∃ m, r.record = .typed (.mapData m) := by
  unfold synthesizeMaps at h
  obtain ⟨m, -, rfl⟩ := List.mem_map.mp h
  exact ⟨rfl, m, rfl⟩

end SessionState

namespace Squasher

variable {P : Int64 → Prop} {s : Squasher}

theorem pairwise_mergeSort_body (s : Squasher) :
    (s.body.mergeSort byTime).Pairwise fun a b => a.time ≤ b.time := by
  have h := List.pairwise_mergeSort byTime_trans byTime_total s.body
  simpa only [byTime, decide_eq_true_eq] using h

/-- With a valid team tracker, every team record a squasher writes fits the teams its output
replays to before it, starting from no team. -/
theorem teamsFitFrom_finish (hs : s.Stamped P) (ht : s.teams.Valid) (endTime : Int64) :
    teamsFitFrom {} (s.finish endTime).1 = true := by
  have hbody : ∀ r ∈ s.body.mergeSort byTime, (change r).teams = none :=
    fun r hr => (hs.mem_body (List.mem_mergeSort.mp hr)).2
  have hteams : ((s.body.mergeSort byTime).foldl apply {}).teams = {} :=
    teams_foldl_apply_of_teams_none hbody wf_empty
  have hmaps : ∀ r ∈ s.session.synthesizeMaps endTime, (change r).teams = none := by
    intro r hr
    obtain ⟨-, m, hm⟩ := SessionState.mem_synthesizeMaps hr
    exact teams_change_of_ne_team fun d hd => by rw [hm] at hd; cases hd
  rw [finish_fst, teamsFitFrom_append, teamsFitFrom_append, teamsFitFrom_of_teams_none hbody,
    TeamTracker.teamsFitFrom_synthesize ht endTime (wf_empty.foldl _) hteams,
    teamsFitFrom_of_teams_none hmaps]
  rfl

end Squasher

/-- What a squash writes, whatever order its input comes in: a block in time order whose
every time is the time of an input record, then team records and map records, all at the end
time. The whole output is in time order when the end time is no
earlier than the input; its team records fit the teams replayed before them, from none, when
the input's do; and with both, squashing the output again replays to the view it replays to. -/
theorem squash_output_stamped (records : List TimedRecord) (endTime : Int64)
    (config : SquashConfig) :
    (∃ sorted teams maps, (squash records endTime config).1 = sorted ++ teams ++ maps ∧
      sorted.Pairwise (fun a b => a.time ≤ b.time) ∧
      (∀ r ∈ sorted, ∃ r' ∈ records, r'.time = r.time) ∧
      (∀ r ∈ teams, r.time = endTime ∧ ∃ d, r.record = .typed (.team d)) ∧
      (∀ r ∈ maps, r.time = endTime ∧ ∃ m, r.record = .typed (.mapData m))) ∧
    ((∀ r ∈ records, r.time ≤ endTime) →
      (squash records endTime config).1.Pairwise (fun a b => a.time ≤ b.time)) ∧
    (teamsFitFrom {} records = true → teamsFitFrom {} (squash records endTime config).1 = true) ∧
    ((∀ r ∈ records, r.time ≤ endTime) → teamsFitFrom {} records = true →
      ∀ endTime' config', replay (squash (squash records endTime config).1 endTime' config').1 =
        replay (squash records endTime config).1) := by
  set s := (Squasher.new config).consumeAll records with hs_def
  have hs : s.Stamped fun t => ∃ r' ∈ records, r'.time = t :=
    Squasher.Stamped.consumeAll records (Squasher.stamped_new _ config) fun r hr => ⟨r, hr, rfl⟩
  have hout : (squash records endTime config).1 = (s.body.mergeSort byTime ++
      s.teams.synthesize endTime) ++ s.session.synthesizeMaps endTime :=
    Squasher.finish_fst s endTime
  have hshape : ∃ sorted teams maps, (squash records endTime config).1 = sorted ++ teams ++ maps ∧
      sorted.Pairwise (fun a b => a.time ≤ b.time) ∧
      (∀ r ∈ sorted, ∃ r' ∈ records, r'.time = r.time) ∧
      (∀ r ∈ teams, r.time = endTime ∧ ∃ d, r.record = .typed (.team d)) ∧
      (∀ r ∈ maps, r.time = endTime ∧ ∃ m, r.record = .typed (.mapData m)) :=
    ⟨_, _, _, hout, Squasher.pairwise_mergeSort_body s,
      fun r hr => (hs.mem_body (List.mem_mergeSort.mp hr)).1,
      fun _ hr => TeamTracker.mem_synthesize hr, fun _ hr => SessionState.mem_synthesizeMaps hr⟩
  have hordered : (∀ r ∈ records, r.time ≤ endTime) →
      (squash records endTime config).1.Pairwise (fun a b => a.time ≤ b.time) := by
    intro hend
    obtain ⟨sorted, teams, maps, heq, hsorted, htimes, hteams, hmaps⟩ := hshape
    have hlast : ∀ r ∈ teams ++ maps, r.time = endTime := by
      intro r hr
      rcases List.mem_append.mp hr with hr | hr
      · exact (hteams r hr).1
      · exact (hmaps r hr).1
    rw [heq, List.append_assoc, List.pairwise_append]
    refine ⟨hsorted, List.pairwise_of_forall_mem_list fun a ha b hb => ?_, fun a ha b hb => ?_⟩
    · rw [hlast a ha, hlast b hb]
      exact Int64.le_refl _
    · obtain ⟨r', hr', htime⟩ := htimes a ha
      rw [hlast b hb, ← htime]
      exact hend r' hr'
  have hfit : teamsFitFrom {} records = true →
      teamsFitFrom {} (squash records endTime config).1 = true := by
    intro hteams
    have hvalid := (Squasher.teams_consumeAll records wf_empty TeamTracker.valid_empty rfl
      hteams (s := Squasher.new config)).1
    exact Squasher.teamsFitFrom_finish hs hvalid endTime
  refine ⟨hshape, hordered, hfit, fun hend hteams endTime' config' => ?_⟩
  exact replay_squash (hordered hend) (hfit hteams) endTime' config'

/-- Two team records out of time order, squashed at the later time. -/
def teamsOutOfOrder : List TimedRecord :=
  [⟨3, .typed (.team ⟨"red", .create ⟨"Red", "", "", .on⟩ ["ann"]⟩)⟩,
    ⟨1, .typed (.team ⟨"red", .addPlayers ["bo"]⟩)⟩]

theorem squash_output_stamped_teamsOutOfOrder :
    (∀ r ∈ teamsOutOfOrder, r.time ≤ 3) ∧ teamsFitFrom {} teamsOutOfOrder = true ∧
      ((squash teamsOutOfOrder 3 {}).1.Pairwise (fun a b => a.time ≤ b.time) ∧
        teamsFitFrom {} (squash teamsOutOfOrder 3 {}).1 = true ∧
        ∀ endTime' config', replay (squash (squash teamsOutOfOrder 3 {}).1 endTime' config').1 =
          replay (squash teamsOutOfOrder 3 {}).1) :=
  have hend : ∀ r ∈ teamsOutOfOrder, r.time ≤ 3 := by decide
  have hteams : teamsFitFrom {} teamsOutOfOrder = true := by decide
  have h := squash_output_stamped teamsOutOfOrder 3 {}
  ⟨hend, hteams, h.2.1 hend, h.2.2.1 hteams, h.2.2.2 hend hteams⟩

end SessionSquash
