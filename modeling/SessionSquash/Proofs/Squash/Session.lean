import SessionSquash.Squash.Session
import SessionSquash.Proofs.Replay.Sort

namespace SessionSquash

set_option autoImplicit false

open ReplayView

namespace SessionState

/-- The session scalars a state stands for. -/
def view (s : SessionState) : SessionView :=
  { gameMode := s.gameMode, dimension := s.dimension, difficulty := s.difficulty,
    worldType := s.worldType }

/-- The join, respawn or game-mode record among the synthesized session records. -/
def sessionRecord (s : SessionState) (lastTime : Int64) : List TimedRecord :=
  match s.join, s.respawn, s.gameMode with
  | some (time, j), _, _ =>
    [⟨time, .typed (.join { j with
      gameMode := s.gameMode.getD j.gameMode
      dimension := s.dimension.getD j.dimension
      difficulty := s.difficulty.getD j.difficulty
      worldType := s.worldType.getD j.worldType })⟩]
  | none, some (time, r), _ =>
    [⟨time, .typed (.respawn {
      dimension := s.dimension.getD r.dimension
      difficulty := s.difficulty.getD r.difficulty
      gameMode := s.gameMode.getD r.gameMode
      worldType := s.worldType.getD r.worldType })⟩]
  | none, none, some m => [⟨lastTime, .typed (.notify (.changeGameMode m))⟩]
  | none, none, none => []

/-- Experience and abilities, which a view does not show. -/
def statusRecords (s : SessionState) (lastTime : Int64) : List TimedRecord :=
  s.experience.toList.map (fun e => ⟨lastTime, .typed (.experience e)⟩) ++
    s.abilities.toList.map (fun a => ⟨lastTime, .typed (.abilities a)⟩)

theorem synthesizeSession_eq (s : SessionState) (lastTime : Int64) :
    s.synthesizeSession lastTime = s.sessionRecord lastTime ++ s.statusRecords lastTime := by
  rw [synthesizeSession, List.append_assoc]
  rfl

/-- What the state keeps: once a join or a respawn is seen every scalar is known, before
that only the game mode can be, and each map is kept under its own id. -/
structure Valid (s : SessionState) : Prop where
  started : s.join.isSome ∨ s.respawn.isSome →
    ∃ gm dim diff wt, s.gameMode = some gm ∧ s.dimension = some dim ∧
      s.difficulty = some diff ∧ s.worldType = some wt
  unstarted : s.join = none → s.respawn = none →
    s.dimension = none ∧ s.difficulty = none ∧ s.worldType = none
  sorted : s.maps.Sorted
  keyed : ∀ k d, s.maps.find? k = some d → d.mapId = k

variable {s : SessionState}

theorem view_onJoin (time : Int64) (j : JoinGame) :
    (s.onJoin time j).view = scalars j.gameMode j.dimension j.difficulty j.worldType := rfl

theorem view_onRespawn (time : Int64) (r : Respawn) :
    (s.onRespawn time r).view = scalars r.gameMode r.dimension r.difficulty r.worldType := rfl

theorem view_onGameMode (m : GameMode) : (s.onGameMode m).view = { s.view with gameMode := some m } :=
  rfl

theorem valid_empty : ({} : SessionState).Valid where
  started h := by simp at h
  unstarted _ _ := ⟨rfl, rfl, rfl⟩
  sorted := KeyMap.sorted_empty
  keyed _ _ h := by cases h

theorem Valid.onJoin (hs : s.Valid) (time : Int64) (j : JoinGame) : (s.onJoin time j).Valid :=
  { hs with
    started := fun _ => ⟨_, _, _, _, rfl, rfl, rfl, rfl⟩
    unstarted := fun h => by cases h }

theorem Valid.onRespawn (hs : s.Valid) (time : Int64) (r : Respawn) : (s.onRespawn time r).Valid :=
  { hs with
    started := fun _ => ⟨_, _, _, _, rfl, rfl, rfl, rfl⟩
    unstarted := fun _ h => by cases h }

theorem Valid.onGameMode (hs : s.Valid) (m : GameMode) : (s.onGameMode m).Valid :=
  { hs with
    started := fun h => by
      obtain ⟨_, dim, diff, wt, -, h₂, h₃, h₄⟩ := hs.started h
      exact ⟨m, dim, diff, wt, rfl, h₂, h₃, h₄⟩ }

theorem Valid.onExperience (hs : s.Valid) (e : Experience) : (s.onExperience e).Valid :=
  ⟨hs.started, hs.unstarted, hs.sorted, hs.keyed⟩

theorem Valid.onAbilities (hs : s.Valid) (a : Abilities) : (s.onAbilities a).Valid :=
  ⟨hs.started, hs.unstarted, hs.sorted, hs.keyed⟩

theorem Valid.onMap (hs : s.Valid) (d : MapData) : (s.onMap d).Valid :=
  { hs with
    sorted := hs.sorted.insert _ _
    keyed := fun k x h => by
      simp only [SessionState.onMap, KeyMap.find?_insert] at h
      split at h
      · rename_i hk
        cases h
        exact hk
      · exact hs.keyed k x h }

theorem inert_of_mem_statusRecords {lastTime : Int64} {r : TimedRecord}
    (h : r ∈ s.statusRecords lastTime) : Inert r := by
  unfold statusRecords at h
  simp only [List.mem_append, List.mem_map, Option.mem_toList] at h
  rcases h with ⟨e, -, rfl⟩ | ⟨a, -, rfl⟩ <;> rfl

/-- The session record sets the scalars the state ends with; a respawn also clears what a
view from before the session would still show of entities and columns. -/
theorem foldl_apply_sessionRecord (hs : s.Valid) (lastTime : Int64) {v : ReplayView}
    (hsess : v.session = {}) (he : v.entities = {}) (hc : v.chunks = {}) :
    (s.sessionRecord lastTime).foldl ReplayView.apply v = { v with session := s.view } := by
  unfold sessionRecord
  split
  next time j hj =>
    obtain ⟨gm, dim, diff, wt, h₁, h₂, h₃, h₄⟩ := hs.started (.inl (by simp [hj]))
    simp only [List.foldl_cons, List.foldl_nil, view, h₁, h₂, h₃, h₄, Option.getD_some]
    rfl
  next time r hj hr =>
    obtain ⟨gm, dim, diff, wt, h₁, h₂, h₃, h₄⟩ := hs.started (.inr (by simp [hr]))
    simp only [List.foldl_cons, List.foldl_nil, view, h₁, h₂, h₃, h₄, Option.getD_some]
    rw [he, hc]
    rfl
  next m hj hr hm =>
    obtain ⟨h₂, h₃, h₄⟩ := hs.unstarted hj hr
    simp only [List.foldl_cons, List.foldl_nil, view, hm, h₂, h₃, h₄]
    change ({ v with session := { v.session with gameMode := some m } } : ReplayView) = _
    rw [hsess]
  next hj hr hm =>
    obtain ⟨h₂, h₃, h₄⟩ := hs.unstarted hj hr
    simp only [List.foldl_nil, view, hm, h₂, h₃, h₄]
    rw [← hsess]

theorem foldl_apply_synthesizeSession (hs : s.Valid) (lastTime : Int64) {v : ReplayView}
    (hv : v.WF) (hsess : v.session = {}) (he : v.entities = {}) (hc : v.chunks = {}) :
    (s.synthesizeSession lastTime).foldl ReplayView.apply v = { v with session := s.view } := by
  rw [synthesizeSession_eq, List.foldl_append, foldl_apply_sessionRecord hs lastTime hsess he hc]
  exact foldl_apply_of_inert (fun _ => inert_of_mem_statusRecords)
    ⟨hv.entities, hv.chunks, hv.teams, hv.inventory, hv.maps⟩

/-- What the session records do: nothing, set scalars only, or respawn at the time of the
respawn the state holds. -/
theorem mem_synthesizeSession {lastTime : Int64} {r : TimedRecord}
    (hr : r ∈ s.synthesizeSession lastTime) :
    Inert r ∨ (∃ f, change r = { session := some f }) ∨
      ∃ rs f, s.join = none ∧ s.respawn = some (r.time, rs) ∧
        change r = { session := some f, entities := .clear, chunks := .clear } := by
  rw [synthesizeSession_eq, List.mem_append] at hr
  rcases hr with hr | hr
  · unfold sessionRecord at hr
    split at hr
    · rw [List.mem_singleton.mp hr]
      exact .inr (.inl ⟨_, rfl⟩)
    · next time rs hj hrs =>
      rw [List.mem_singleton.mp hr]
      exact .inr (.inr ⟨rs, _, hj, hrs, rfl⟩)
    · rw [List.mem_singleton.mp hr]
      exact .inr (.inl ⟨_, rfl⟩)
    · cases hr
  · exact .inl (inert_of_mem_statusRecords hr)

/-- Only the session record does anything, so the records may be sorted in any order. -/
theorem pairwise_synthesizeSession (lastTime : Int64) :
    (s.synthesizeSession lastTime).Pairwise Reorderable := by
  rw [synthesizeSession_eq, List.pairwise_append]
  refine ⟨?_, List.pairwise_of_forall_mem_list fun a ha b _ =>
      (commute_of_inert_left (inert_of_mem_statusRecords ha) b).reorderable,
    fun a _ b hb => (commute_of_inert_right a (inert_of_mem_statusRecords hb)).reorderable⟩
  unfold sessionRecord
  split <;> simp

/-- Map records kept under their ids replay as one update of each id in turn. -/
theorem foldl_apply_maps (time : Int64) :
    ∀ {l : List (Int32 × MapData)}, (∀ p ∈ l, p.2.mapId = p.1) → ∀ {v : ReplayView}, v.WF →
      (l.map fun p => (⟨time, .typed (.mapData p.2)⟩ : TimedRecord)).foldl ReplayView.apply v =
        { v with maps := l.foldl (fun m p => m.update p.1 fun _ => some p.2) v.maps }
  | [], _, _, _ => rfl
  | p :: rest, h, v, hv => by
    rw [List.map_cons, List.foldl_cons,
      foldl_apply_maps time (fun q hq => h q (.tail _ hq)) (hv.apply _)]
    simp only [ReplayView.apply, h p (.head _)]
    rfl

/-- Replaying the map records, from a view with no map, brings in exactly the state's maps. -/
theorem foldl_apply_synthesizeMaps (hs : s.Valid) (time : Int64) {v : ReplayView} (hv : v.WF)
    (hm : v.maps = {}) :
    (s.synthesizeMaps time).foldl ReplayView.apply v = { v with maps := s.maps } := by
  have hkeyed : ∀ p ∈ s.maps.entries, p.2.mapId = p.1 :=
    fun p hp => hs.keyed p.1 p.2 (hs.sorted.find?_eq_some_iff.mpr hp)
  have hrecords : s.synthesizeMaps time =
      s.maps.entries.map fun p => (⟨time, .typed (.mapData p.2)⟩ : TimedRecord) := by
    simp [synthesizeMaps, KeyMap.values]
  rw [hrecords, foldl_apply_maps time hkeyed hv, hm]
  congr 1
  apply KeyMap.ext (KeyMap.sorted_empty.foldl_update _ _ _) hs.sorted
  intro k
  rw [KeyMap.find?_foldl_update_entries (fun x _ => some x) hs.sorted]
  cases s.maps.find? k <;> rfl

end SessionState

end SessionSquash
