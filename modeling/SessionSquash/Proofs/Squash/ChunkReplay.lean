import SessionSquash.Proofs.Squash.Routing
import SessionSquash.Proofs.Replay.Blocks

namespace SessionSquash

set_option autoImplicit false

open ReplayView

namespace ChunkTracker

variable {t : ChunkTracker}

theorem tracks_empty : ({} : ChunkTracker).Tracks where
  sorted := KeyMap.sorted_empty
  unloadsSorted := KeyMap.sorted_empty
  states _ _ h := by cases h
  apart _ _ h := by cases h

theorem view_empty : ({} : ChunkTracker).view = {} := rfl

theorem Tracks.foldl_onColumn (time : Int64) (cs : List ChunkColumn) (ht : t.Tracks) :
    (cs.foldl (·.onColumn time ·) t).Tracks ∧
      (cs.foldl (·.onColumn time ·) t).view = (ChunkChange.columns cs).run t.view := by
  induction cs generalizing t with
  | nil => exact ⟨ht, rfl⟩
  | cons c rest ih =>
    obtain ⟨htr, hview⟩ := ih (ht.onColumn time c)
    refine ⟨htr, ?_⟩
    rw [List.foldl_cons, hview, view_onColumn ht time c]
    rfl

theorem Tracks.foldl_onBlock (time : Int64) (cs : List BlockChange) (ht : t.Tracks) :
    (cs.foldl (fun t c => (t.onBlock time c).1) t).Tracks ∧
      (cs.foldl (fun t c => (t.onBlock time c).1) t).view = (ChunkChange.blocks time cs).run t.view := by
  induction cs generalizing t with
  | nil => exact ⟨ht, rfl⟩
  | cons c rest ih =>
    obtain ⟨htr, hview⟩ := ih (ht.onBlock time c)
    refine ⟨htr, ?_⟩
    rw [List.foldl_cons, hview, view_onBlock ht time c]
    rfl

/-- The change a tracker keeps at a world position: in the column under the key of the
position's chunk, under the key of the position's section and its index in the section. -/
def changeAt (t : ChunkTracker) (pos : BlockPos) : Option (Int64 × BlockChange) :=
  (t.chunks.find? (blockKey pos)).bind fun c => pos.changeKey.bind c.blockChanges.find?

/-- Under the packed key of a position the tracker keeps a change at that very position, with
the time and block its view shows there. -/
theorem Tracks.changeAt_eq (ht : t.Tracks) (pos : BlockPos) :
    t.changeAt pos = ((t.view.find? (blockKey pos)).bind fun cv => cv.blocks.find? pos).map
      fun tb => (tb.1, ⟨pos, tb.2⟩) := by
  rw [changeAt, find?_view ht.sorted]
  cases hc : t.chunks.find? (blockKey pos) with
  | none => rfl
  | some c =>
    have hheld := ht.states _ c hc
    have hcol : Coord.chunkOfBlock pos.x pos.z = (c.x, c.z) := by
      obtain ⟨hx, hz⟩ := Coord.chunkKey_inj hheld.key
      rw [hx, hz]
    simp only [Option.bind_some, Option.map_some, ChunkState.view,
      ChunkState.find?_overrides hheld.toKeyed, ChunkState.lookup, hcol, if_true, Option.map_map]
    cases hk : pos.changeKey with
    | none => rfl
    | some k =>
      cases hf : c.blockChanges.find? k with
      | none => simp [hf]
      | some tc =>
        obtain ⟨hcol', hk'⟩ := hheld.keyed k tc hf
        have hpos : tc.2.position = pos :=
          BlockPos.eq_of_changeKey_eq (hcol'.trans hcol.symm) hk' hk
        obtain ⟨time, ⟨p, b⟩⟩ := tc
        dsimp only at hpos
        subst hpos
        simp [hf]

end ChunkTracker

namespace Squasher

variable {s : Squasher}

/-- Routing a chunk record keeps the tracker tracking and rewrites its view as the record's
change rewrites the loaded columns, whatever the record's time. -/
theorem chunks_onChunk (hs : s.chunks.Tracks) (time : Int64) {p : Payload}
    (hd : p.kind.domain = .chunk) :
    (s.onChunk time (.typed p)).chunks.Tracks ∧
      (s.onChunk time (.typed p)).chunks.view =
        (change ⟨time, .typed p⟩).chunks.run s.chunks.view := by
  unfold onChunk
  split
  · next c heq =>
    cases heq
    exact ⟨hs.onColumn time c, ChunkTracker.view_onColumn hs time c⟩
  · next d heq =>
    cases heq
    exact hs.foldl_onColumn time d.columns
  · next c heq =>
    cases heq
    rw [(sameState_onBlock s c).chunks]
    exact ⟨hs.onBlock time c, ChunkTracker.view_onBlock hs time c⟩
  · next d heq =>
    cases heq
    rw [(sameState_foldl_onBlock d.records s).chunks]
    exact hs.foldl_onBlock time d.records
  · exfalso
    cases p <;> simp_all [Payload.kind, RecordKind.domain]

/-- Taking in a chunk record does to the tracker's view what replaying it does to the loaded
columns; a respawn clears both, and an undecoded record reaches no tracker and changes
nothing. -/
theorem chunks_consume (hs : s.chunks.Tracks) {r : TimedRecord}
    (hd : r.record.kind.domain = .chunk ∨ r.record.kind = .respawn) :
    (s.consume r).chunks.Tracks ∧ (s.consume r).chunks.view = (change r).chunks.run s.chunks.view := by
  obtain ⟨time, rec⟩ := r
  cases rec with
  | raw kind data =>
    have hd' : kind.domain = .chunk ∨ kind.domain = .session := by
      rcases hd with hd | hd
      · exact .inl hd
      · simp only [Record.kind] at hd
        subst hd
        exact .inr rfl
    unfold consume
    dsimp only
    split
    · exact ⟨hs, rfl⟩
    · split
      · next hw => rcases hd' with hd' | hd' <;> rw [hd'] at hw <;> cases hw
      · next hw => rcases hd' with hd' | hd' <;> rw [hd'] at hw <;> cases hw
      · exact ⟨hs, rfl⟩
  | typed p =>
    simp only [Record.kind] at hd
    rcases hd with hd | hd
    · unfold consume
      dsimp only
      split
      · next hd' => rw [hd] at hd'; cases hd'
      · refine chunks_onChunk ?_ time hd
        exact hs
      all_goals next hd' => rw [hd] at hd'; cases hd'
    · obtain ⟨d, rfl⟩ : ∃ d, p = .respawn d := by
        cases p <;> first | exact ⟨_, rfl⟩ | cases hd
      exact ⟨ChunkTracker.tracks_empty, rfl⟩

/-- The tracker follows the loaded columns of the replay, record after record. -/
theorem chunks_consumeAll (records : List TimedRecord)
    (hrec : ∀ r ∈ records, r.record.kind.domain = .chunk ∨ r.record.kind = .respawn)
    (s : Squasher) {v : ReplayView} (hs : s.chunks.Tracks) (hv : v.WF)
    (hview : s.chunks.view = v.chunks) :
    (s.consumeAll records).chunks.Tracks ∧
      (s.consumeAll records).chunks.view = (records.foldl ReplayView.apply v).chunks := by
  induction records generalizing s v with
  | nil => exact ⟨hs, hview⟩
  | cons r rest ih =>
    obtain ⟨hs', hview'⟩ := chunks_consume hs (hrec r List.mem_cons_self)
    have hstep : (s.consume r).chunks.view = (v.apply r).chunks := by
      rw [hview', hview, apply_eq_run hv.chunks]
      rfl
    exact ih (fun x hx => hrec x (List.mem_cons_of_mem r hx)) (s.consume r) hs' (hv.apply r) hstep

end Squasher

/-- The chunk tracker simulates the chunk replay. Fed the chunk records and respawns of a
recording as the squasher routes them, at any times, it tracks exactly the columns the
recording leaves loaded, each with the sections and the biome the replay shows. At each
world position it keeps, in the column of the position's chunk and under the key of the
position's section and index, a change at that very position with the time and block the replay
shows there, which is the first of the latest writes made there since its column was loaded or
a column record last sent its section. And the records it synthesizes replay, from an empty
view, to the same loaded columns. -/
theorem chunk_tracker_simulates_replay (records : List TimedRecord)
    (hrec : ∀ r ∈ records, r.record.kind.domain = .chunk ∨ r.record.kind = .respawn)
    (config : SquashConfig) :
    let t := ((Squasher.new config).consumeAll records).chunks
    let v := replay records
    (∀ K, (t.chunks.find? K).isSome = (v.chunks.find? K).isSome) ∧
      (∀ K c, t.chunks.find? K = some c → ∃ cv, v.chunks.find? K = some cv ∧
        cv.sections = c.sections ∧ cv.biome = c.biome) ∧
      (∀ pos, t.changeAt pos = (v.blockAt pos).map fun tb => (tb.1, ⟨pos, tb.2⟩)) ∧
      (∀ pos tb, v.blockAt pos = some tb ↔
        ∃ ws, pos.writes records = some ws ∧ FirstLatest ws tb) ∧
      (replay t.synthesize).chunks = v.chunks := by
  intro t v
  obtain ⟨ht, hview⟩ := Squasher.chunks_consumeAll records hrec (Squasher.new config)
    ChunkTracker.tracks_empty wf_empty ChunkTracker.view_empty
  have hfind : ∀ K, v.chunks.find? K = (t.chunks.find? K).map ChunkState.view := fun K => by
    rw [← ChunkTracker.find?_view ht.sorted]
    exact congrArg (·.find? K) hview.symm
  refine ⟨fun K => ?_, fun K c hc => ?_, fun pos => ?_, blockAt_replay_eq_some_iff records,
    ?_⟩
  · rw [hfind]
    cases t.chunks.find? K <;> rfl
  · refine ⟨c.view, ?_, rfl, rfl⟩
    rw [hfind, hc]
    rfl
  · rw [ht.changeAt_eq, hview]
    rfl
  · rw [replay, ht.foldl_apply_synthesize wf_empty rfl]
    exact hview

/-- A respawn, a column loaded at time 4 with its lowest section, then two writes at one
position, the newer taken in first, and a write in a column never loaded. -/
def blocksOutOfOrder : List TimedRecord :=
  [⟨2, .typed (.respawn default)⟩,
    ⟨4, .typed (.chunkData (ChunkColumn.lowest 0 0))⟩,
    ⟨9, .typed (.blockChange ⟨⟨1, 70, 3⟩, 7⟩)⟩,
    ⟨6, .typed (.multiBlockChange ⟨[⟨⟨1, 70, 3⟩, 5⟩, ⟨⟨-20, 3, 5⟩, 1⟩]⟩)⟩]

theorem chunk_tracker_simulates_replay_blocksOutOfOrder :
    (∀ r ∈ blocksOutOfOrder, r.record.kind.domain = .chunk ∨ r.record.kind = .respawn) ∧
    let t := ((Squasher.new {}).consumeAll blocksOutOfOrder).chunks
    let v := replay blocksOutOfOrder
    (∀ K, (t.chunks.find? K).isSome = (v.chunks.find? K).isSome) ∧
      (∀ K c, t.chunks.find? K = some c → ∃ cv, v.chunks.find? K = some cv ∧
        cv.sections = c.sections ∧ cv.biome = c.biome) ∧
      (∀ pos, t.changeAt pos = (v.blockAt pos).map fun tb => (tb.1, ⟨pos, tb.2⟩)) ∧
      (∀ pos tb, v.blockAt pos = some tb ↔
        ∃ ws, pos.writes blocksOutOfOrder = some ws ∧ FirstLatest ws tb) ∧
      (replay t.synthesize).chunks = v.chunks :=
  have hrec : ∀ r ∈ blocksOutOfOrder,
      r.record.kind.domain = .chunk ∨ r.record.kind = .respawn := by
    decide
  ⟨hrec, chunk_tracker_simulates_replay blocksOutOfOrder hrec {}⟩

end SessionSquash
