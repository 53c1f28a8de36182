import SessionSquash.Proofs.Squash.Routing

namespace SessionSquash

set_option autoImplicit false

open ReplayView

theorem minValue_le_int64 (x : Int64) : Int64.minValue ≤ x :=
  Int64.le_iff_toInt_le.mpr (Int64.minValue_le_toInt x)

/-- Every team record fits the teams replayed before it, starting from `v`. -/
def teamsFitFrom : ReplayView → List TimedRecord → Bool
  | _, [] => true
  | v, r :: rest => r.fitsTeams v && teamsFitFrom (v.apply r) rest

namespace ReplayView

theorem replay_append (l rest : List TimedRecord) :
    replay (l ++ rest) = rest.foldl apply (replay l) :=
  List.foldl_append

theorem agrees_self (v : ReplayView) : v.agrees v = true := by
  simp [agrees, List.all_eq_true, List.zip_eq_zipWith, List.zipWith_self]

theorem commute_entities_chunks {a b : TimedRecord} {c : EntityChange} {c' : ChunkChange}
    (ha : change a = { entities := c }) (hb : change b = { chunks := c' }) : Commute a b := by
  apply commute_of_disjoint
  rw [ha, hb]
  exact ⟨by cases c <;> trivial, trivial, .inl rfl, .inl rfl, trivial, .inl rfl⟩

theorem commute_session_entities {a b : TimedRecord} {f : SessionView → SessionView}
    {c : EntityChange} (ha : change a = { session := some f }) (hb : change b = { entities := c }) :
    Commute a b := by
  apply commute_of_disjoint
  rw [ha, hb]
  exact ⟨trivial, trivial, .inl rfl, .inr rfl, trivial, .inl rfl⟩

theorem commute_session_chunks {a b : TimedRecord} {f : SessionView → SessionView}
    {c : ChunkChange} (ha : change a = { session := some f }) (hb : change b = { chunks := c }) :
    Commute a b := by
  apply commute_of_disjoint
  rw [ha, hb]
  exact ⟨trivial, trivial, .inl rfl, .inr rfl, trivial, .inl rfl⟩

end ReplayView

theorem ChunkTracker.ChunkAt.chunks {K : UInt64} {r : TimedRecord} (h : ChunkTracker.ChunkAt K r) :
    ∃ c, change r = { chunks := c } := by
  rcases h with ⟨col, h, -⟩ | ⟨time, block, h, -⟩
  · exact ⟨_, h⟩
  · exact ⟨_, h⟩

namespace Squasher

/-- What `finish` sorts by time: records passed through, the current world, then what the
window, session, entity and chunk trackers synthesize. -/
def body (s : Squasher) : List TimedRecord :=
  s.unhandled ++ s.currentWorld ++ s.windows.synthesize ++
    s.session.synthesizeSession s.lastTime ++ s.entities.synthesize ++ s.chunks.synthesize

theorem finish_fst (s : Squasher) (endTime : Int64) :
    (s.finish endTime).1 = s.body.mergeSort byTime ++ s.teams.synthesize endTime ++
      s.session.synthesizeMaps endTime := rfl

/-- A record of the current world: it changes nothing, or destroys entities of which nothing
older is held. -/
def WorldPart (s : Squasher) (r : TimedRecord) : Prop :=
  WorldRecord r ∧
    ∀ ids, change r = { entities := .erase ids } → ∀ e ∈ ids, s.entities.Since r.time e

/-- A synthesized session record: it changes nothing, sets scalars, or respawns no later
than anything the entity and chunk trackers hold. -/
def SessionPart (s : Squasher) (r : TimedRecord) : Prop :=
  Inert r ∨ (∃ f, change r = { session := some f }) ∨
    ∃ f, change r = { session := some f, entities := .clear, chunks := .clear } ∧
      (∀ e, s.entities.Since r.time e) ∧ s.chunks.Since r.time

/-- A synthesized entity record: it changes nothing, or rewrites one entity and is no older
than any bound the tracker keeps on that entity. -/
def EntityPart (s : Squasher) (r : TimedRecord) : Prop :=
  Inert r ∨ ∃ e g, change r = { entities := .at e g } ∧ ∀ T, s.entities.Since T e → T ≤ r.time

/-- A synthesized chunk record: it changes one column and is no older than any bound the
tracker keeps. -/
def ChunkPart (s : Squasher) (r : TimedRecord) : Prop :=
  (∃ K, ChunkTracker.ChunkAt K r) ∧ ∀ T, s.chunks.Since T → T ≤ r.time

variable {s : Squasher} {τ : Int64} {a b r : TimedRecord}

theorem worldPart_of_mem (hs : s.Inv τ) (hr : r ∈ s.currentWorld) : s.WorldPart r :=
  ⟨(hs.world r hr).1, hs.destroyed r hr⟩

theorem sessionPart_of_mem (hs : s.Inv τ) (hr : r ∈ s.session.synthesizeSession s.lastTime) :
    s.SessionPart r := by
  rcases SessionState.mem_synthesizeSession hr with h | h | ⟨rs, f, -, hresp, hc⟩
  · exact .inl h
  · exact .inr (.inl h)
  · obtain ⟨-, he, hch⟩ := hs.respawned r.time rs hresp
    exact .inr (.inr ⟨f, hc, he, hch⟩)

theorem entityPart_of_mem (hs : s.Inv τ) (hr : r ∈ s.entities.synthesize) : s.EntityPart r := by
  rcases EntityTracker.mem_synthesize hs.entities hr with h | ⟨e, st, hfind, hmem⟩
  · exact .inl h
  rcases EntityTracker.touches_of_mem (hs.entities.states e st hfind) hmem with h | ⟨g, hg⟩
  · exact .inl h
  refine .inr ⟨e, g, hg, fun T hT => ?_⟩
  obtain ⟨hown, hmotion⟩ := hT st hfind
  exact hmem.elim (hown r) (hmotion r)

theorem chunkPart_of_mem (hs : s.Inv τ) (hr : r ∈ s.chunks.synthesize) : s.ChunkPart r :=
  ⟨(ChunkTracker.chunkAt_of_mem_synthesize hs.chunks (fun _ _ _ => minValue_le_int64 _)
      (fun _ _ _ => minValue_le_int64 _) hr).1,
    fun _ hT => (ChunkTracker.chunkAt_of_mem_synthesize hs.chunks hT.unloads hT.columns hr).2⟩

theorem WorldPart.entities (h : s.WorldPart r) : ∃ c, change r = { entities := c } := by
  rcases h.1 with h | ⟨ids, h⟩
  · exact ⟨.keep, h⟩
  · exact ⟨_, h⟩

theorem WorldPart.inventory (h : s.WorldPart r) : (change r).inventory = .keep := by
  obtain ⟨c, hc⟩ := h.entities
  rw [hc]

theorem SessionPart.inventory (h : s.SessionPart r) : (change r).inventory = .keep := by
  rcases h with h | ⟨f, h⟩ | ⟨f, h, -⟩ <;> rw [h]

theorem EntityPart.inventory (h : s.EntityPart r) : (change r).inventory = .keep := by
  rcases h with h | ⟨e, g, h, -⟩ <;> rw [h]

theorem ChunkPart.chunks (h : s.ChunkPart r) : ∃ c, change r = { chunks := c } := by
  obtain ⟨K, hK⟩ := h.1
  exact hK.chunks

theorem ChunkPart.inventory (h : s.ChunkPart r) : (change r).inventory = .keep := by
  obtain ⟨c, hc⟩ := h.chunks
  rw [hc]

theorem reorderable_window (ha : Inert a ∨ InventoryOnly a) (hb : (change b).inventory = .keep) :
    Reorderable a b := by
  rcases ha with ha | ha
  · exact (commute_of_inert_left ha b).reorderable
  · exact (ha.commute hb).reorderable

theorem WorldPart.reorderable_window (ha : s.WorldPart a) (hb : Inert b ∨ InventoryOnly b) :
    Reorderable a b := by
  rcases hb with hb | hb
  · exact (commute_of_inert_right a hb).reorderable
  · exact (hb.commute ha.inventory).symm.reorderable

theorem WorldPart.reorderable_session (ha : s.WorldPart a) (hb : s.SessionPart b) :
    Reorderable a b := by
  obtain ⟨c, hc⟩ := ha.entities
  rcases hb with hb | ⟨f, hb⟩ | ⟨f, hb, -⟩
  · exact (commute_of_inert_right a hb).reorderable
  · exact (commute_session_entities hb hc).symm.reorderable
  · rcases ha.1 with ha' | ⟨ids, ha'⟩
    · exact (commute_of_inert_left ha' b).reorderable
    apply Commute.reorderable
    apply commute_of_disjoint
    rw [ha', hb]
    exact ⟨trivial, trivial, .inl rfl, .inl rfl, trivial, .inl rfl⟩

theorem WorldPart.reorderable_entity (ha : s.WorldPart a) (hb : s.EntityPart b) :
    Reorderable a b := by
  rcases ha.1 with ha' | ⟨ids, ha'⟩
  · exact (commute_of_inert_left ha' b).reorderable
  rcases hb with hb | ⟨e, g, hb, hT⟩
  · exact (commute_of_inert_right a hb).reorderable
  by_cases he : e ∈ ids
  · exact (InOrder.of_le (hT a.time (ha.2 ids ha' e he))).reorderable
  · apply Commute.reorderable
    apply commute_of_disjoint
    rw [ha', hb]
    exact ⟨he, trivial, .inl rfl, .inl rfl, trivial, .inl rfl⟩

theorem WorldPart.reorderable_chunk (ha : s.WorldPart a) (hb : s.ChunkPart b) :
    Reorderable a b := by
  obtain ⟨c, hc⟩ := ha.entities
  obtain ⟨c', hc'⟩ := hb.chunks
  exact (commute_entities_chunks hc hc').reorderable

theorem SessionPart.reorderable_entity (ha : s.SessionPart a) (hb : s.EntityPart b) :
    Reorderable a b := by
  rcases hb with hb | ⟨e, g, hb, hT⟩
  · exact (commute_of_inert_right a hb).reorderable
  rcases ha with ha | ⟨f, ha⟩ | ⟨f, -, he, -⟩
  · exact (commute_of_inert_left ha b).reorderable
  · exact (commute_session_entities ha hb).reorderable
  · exact (InOrder.of_le (hT a.time (he e))).reorderable

theorem SessionPart.reorderable_chunk (ha : s.SessionPart a) (hb : s.ChunkPart b) :
    Reorderable a b := by
  obtain ⟨c, hc⟩ := hb.chunks
  rcases ha with ha | ⟨f, ha⟩ | ⟨f, -, -, hch⟩
  · exact (commute_of_inert_left ha b).reorderable
  · exact (commute_session_chunks ha hc).reorderable
  · exact (InOrder.of_le (hb.2 a.time hch)).reorderable

theorem EntityPart.reorderable_chunk (ha : s.EntityPart a) (hb : s.ChunkPart b) :
    Reorderable a b := by
  obtain ⟨c, hc⟩ := hb.chunks
  rcases ha with ha | ⟨e, g, ha, -⟩
  · exact (commute_of_inert_left ha b).reorderable
  · exact (commute_entities_chunks ha hc).reorderable

/-- Sorting the body by time swaps only records that commute. -/
theorem pairwise_body (hs : s.Inv τ) : s.body.Pairwise Reorderable := by
  have hU : ∀ a ∈ s.unhandled, ∀ b, Reorderable a b :=
    fun a ha b => (commute_of_inert_left (hs.unhandled a ha) b).reorderable
  unfold body
  refine List.pairwise_append.2 ⟨List.pairwise_append.2 ⟨List.pairwise_append.2
    ⟨List.pairwise_append.2 ⟨List.pairwise_append.2
      ⟨List.pairwise_of_forall_mem_list fun a ha b _ => hU a ha b,
        hs.worldOrdered.imp fun h => (InOrder.of_le h).reorderable, fun a ha b _ => hU a ha b⟩,
      WindowTracker.pairwise_synthesize hs.windows, ?window⟩,
      SessionState.pairwise_synthesizeSession _, ?session⟩,
      EntityTracker.pairwise_synthesize hs.entities, ?entity⟩,
      ChunkTracker.pairwise_synthesize hs.chunks, ?chunk⟩
  case window =>
    intro a ha b hb
    have hb := WindowTracker.mem_synthesize hs.windows hb
    rcases List.mem_append.mp ha with ha | ha
    · exact hU a ha b
    · exact (worldPart_of_mem hs ha).reorderable_window hb
  case session =>
    intro a ha b hb
    have hb := sessionPart_of_mem hs hb
    simp only [List.mem_append] at ha
    rcases ha with (ha | ha) | ha
    · exact hU a ha b
    · exact (worldPart_of_mem hs ha).reorderable_session hb
    · exact reorderable_window (WindowTracker.mem_synthesize hs.windows ha) hb.inventory
  case entity =>
    intro a ha b hb
    have hb := entityPart_of_mem hs hb
    simp only [List.mem_append] at ha
    rcases ha with ((ha | ha) | ha) | ha
    · exact hU a ha b
    · exact (worldPart_of_mem hs ha).reorderable_entity hb
    · exact reorderable_window (WindowTracker.mem_synthesize hs.windows ha) hb.inventory
    · exact (sessionPart_of_mem hs ha).reorderable_entity hb
  case chunk =>
    intro a ha b hb
    have hb := chunkPart_of_mem hs hb
    simp only [List.mem_append] at ha
    rcases ha with (((ha | ha) | ha) | ha) | ha
    · exact hU a ha b
    · exact (worldPart_of_mem hs ha).reorderable_chunk hb
    · exact reorderable_window (WindowTracker.mem_synthesize hs.windows ha) hb.inventory
    · exact (sessionPart_of_mem hs ha).reorderable_chunk hb
    · exact (entityPart_of_mem hs ha).reorderable_chunk hb

/-- With no live entity, a world record leaves a view as it is. -/
theorem apply_of_worldRecord (hr : WorldRecord r) {v : ReplayView} (hv : v.WF)
    (he : v.entities = {}) : v.apply r = v := by
  rcases hr with hr | ⟨ids, hr⟩
  · exact apply_of_inert hr hv
  · rw [apply_eq_run hv.chunks, hr]
    obtain ⟨entities, chunks, teams, session, inventory, maps⟩ := v
    subst he
    simp only [Change.run, EntityChange.run, ChunkChange.run, InventoryChange.run,
      KeyMap.foldl_erase_empty]

theorem foldl_apply_world {l : List TimedRecord} (h : ∀ r ∈ l, WorldRecord r) {v : ReplayView}
    (hv : v.WF) (he : v.entities = {}) : l.foldl apply v = v := by
  induction l with
  | nil => rfl
  | cons r rest ih =>
    rw [List.foldl_cons, apply_of_worldRecord (h r (.head _)) hv he]
    exact ih fun x hx => h x (.tail _ hx)

/-- Replayed from an empty view, each part of the body brings in its own part of the state's
view: all of it but teams and maps. -/
theorem foldl_apply_body (hs : s.Inv τ) :
    s.body.foldl apply {} = { s.view with teams := {}, maps := {} } := by
  have hwf := wf_view hs
  have hU : s.unhandled.foldl apply {} = {} := foldl_apply_of_inert hs.unhandled wf_empty
  have hCW : s.currentWorld.foldl apply {} = {} :=
    foldl_apply_world (fun r hr => (hs.world r hr).1) wf_empty rfl
  have hW : s.windows.synthesize.foldl apply {} = { inventory := s.windows.inventory } :=
    WindowTracker.foldl_apply_synthesize hs.windows wf_empty rfl
  have hS : (s.session.synthesizeSession s.lastTime).foldl apply
      { inventory := s.windows.inventory } =
      { inventory := s.windows.inventory, session := s.session.view } :=
    SessionState.foldl_apply_synthesizeSession hs.session _ (hW ▸ wf_empty.foldl _) rfl rfl rfl
  have hE : s.entities.synthesize.foldl apply
      { inventory := s.windows.inventory, session := s.session.view } =
      { inventory := s.windows.inventory, session := s.session.view,
        entities := s.entities.view } :=
    EntityTracker.foldl_apply_synthesize hs.entities (hS ▸ (hW ▸ wf_empty.foldl _).foldl _) rfl
  have hC : s.chunks.synthesize.foldl apply
      { inventory := s.windows.inventory, session := s.session.view,
        entities := s.entities.view } = { s.view with teams := {}, maps := {} } :=
    ChunkTracker.foldl_apply_synthesize hs.chunks
      (hE ▸ (hS ▸ (hW ▸ wf_empty.foldl _).foldl _).foldl _) rfl
  simp only [body, List.foldl_append, hU, hCW, hW, hS, hE, hC]

/-- What `finish` writes replays to the view the state stands for. -/
theorem replay_finish (hs : s.Inv τ) (endTime : Int64) : replay (s.finish endTime).1 = s.view := by
  have hbody := foldl_apply_body hs
  have hT : (s.teams.synthesize endTime).foldl apply { s.view with teams := {}, maps := {} } =
      { s.view with maps := {} } :=
    TeamTracker.foldl_apply_synthesize hs.teams endTime (hbody ▸ wf_empty.foldl _) rfl
  have hM : (s.session.synthesizeMaps endTime).foldl apply { s.view with maps := {} } = s.view :=
    SessionState.foldl_apply_synthesizeMaps hs.session endTime
      (hT ▸ (hbody ▸ wf_empty.foldl _).foldl _) rfl
  rw [replay, finish_fst, List.foldl_append, List.foldl_append,
    foldl_apply_mergeSort (pairwise_body hs) wf_empty, hbody, hT, hM]

theorem inv_new (config : SquashConfig) (τ : Int64) : (new config).Inv τ where
  unhandled _ h := by cases h
  world _ h := by cases h
  worldOrdered := .nil
  destroyed _ h := by cases h
  entities := ⟨KeyMap.sorted_empty, fun _ _ h => (by cases h), fun _ h => (by cases h)⟩
  entitiesUntil _ _ h := by cases h
  chunks := ⟨KeyMap.sorted_empty, KeyMap.sorted_empty, fun _ _ h => (by cases h),
    fun _ _ h => (by cases h)⟩
  chunksUntil _ _ h := by cases h
  windows := WindowTracker.valid_empty
  snapshotUntil _ h := by cases h
  teams := TeamTracker.valid_empty
  session := SessionState.valid_empty
  respawned _ _ h := by cases h

theorem view_new (config : SquashConfig) : (new config).view = {} := rfl

/-- A pass over records in time order, each fitting the teams replayed before it, keeps the
invariant and moves the view as replaying the records moves it. -/
theorem consumeAll_spec {l : List TimedRecord} (hsorted : l.Pairwise fun a b => a.time ≤ b.time) :
    ∀ {s : Squasher} {τ : Int64}, s.Inv τ → (∀ r ∈ l, τ ≤ r.time) →
      teamsFitFrom s.view l = true →
      ∃ τ', (s.consumeAll l).Inv τ' ∧ (s.consumeAll l).view = l.foldl apply s.view := by
  induction l with
  | nil => exact fun {_ τ} hs _ _ => ⟨τ, hs, rfl⟩
  | cons r rest ih =>
    intro s τ hs hτ hfit
    simp only [teamsFitFrom, Bool.and_eq_true] at hfit
    obtain ⟨hlater, hrest⟩ := List.pairwise_cons.mp hsorted
    have hstep := steps_consume hs (hτ r (.head _)) hfit.1
    rw [← hstep.view] at hfit
    obtain ⟨τ', hinv, hview⟩ := ih hrest hstep.inv hlater hfit.2
    refine ⟨τ', hinv, ?_⟩
    rw [List.foldl_cons, ← hstep.view]
    exact hview

end Squasher

/-- The view a recording replays to is the one its squashed output replays to, when its
records are in time order and each team record fits the teams replayed before it. -/
theorem replay_squash {records : List TimedRecord}
    (hsorted : records.Pairwise fun a b => a.time ≤ b.time)
    (hteams : teamsFitFrom {} records = true) (endTime : Int64) (config : SquashConfig) :
    replay (squash records endTime config).1 = replay records := by
  obtain ⟨τ, hinv, hview⟩ := Squasher.consumeAll_spec hsorted
    (Squasher.inv_new config Int64.minValue) (fun r _ => minValue_le_int64 r.time)
    (by rw [Squasher.view_new]; exact hteams)
  rw [squash, Squasher.replay_finish hinv, hview, Squasher.view_new]
  rfl

/-- Squashing keeps the replay: the output replays to the view the recording replays to, so
`verifySquash` accepts it, and any continuation replays the same after either. The records
are in time order and each team record fits the teams replayed before it. -/
theorem squash_replays_as_recording {records : List TimedRecord}
    (hsorted : records.Pairwise fun a b => a.time ≤ b.time)
    (hteams : teamsFitFrom {} records = true) (endTime : Int64) (config : SquashConfig) :
    replay (squash records endTime config).1 = replay records ∧
      verifySquash records (squash records endTime config).1 = true ∧
      ∀ rest, replay ((squash records endTime config).1 ++ rest) = replay (records ++ rest) := by
  have h := replay_squash hsorted hteams endTime config
  refine ⟨h, ?_, fun rest => ?_⟩
  · rw [verifySquash, h]
    exact agrees_self _
  · rw [replay_append, replay_append, h]

/-- A team created with one member, then joined by another. -/
def teamJoined : List TimedRecord :=
  [⟨1, .typed (.team ⟨"red", .create ⟨"Red", "", "", .on⟩ ["ann"]⟩)⟩,
    ⟨2, .typed (.team ⟨"red", .addPlayers ["bo"]⟩)⟩]

theorem squash_replays_teamJoined :
    (teamJoined.Pairwise fun a b => a.time ≤ b.time) ∧ teamsFitFrom {} teamJoined = true ∧
      (replay (squash teamJoined 2 {}).1 = replay teamJoined ∧
        verifySquash teamJoined (squash teamJoined 2 {}).1 = true ∧
        ∀ rest, replay ((squash teamJoined 2 {}).1 ++ rest) = replay (teamJoined ++ rest)) :=
  have hsorted : teamJoined.Pairwise fun a b => a.time ≤ b.time := by decide
  have hteams : teamsFitFrom {} teamJoined = true := by decide
  ⟨hsorted, hteams, squash_replays_as_recording hsorted hteams 2 {}⟩

end SessionSquash
