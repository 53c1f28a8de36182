import SessionSquash.Proofs.Squash.Loads
import SessionSquash.Proofs.Squash.Output

namespace SessionSquash

set_option autoImplicit false

open ReplayView

namespace TimedRecord

/-- The entity a record names alone, if it names one. -/
def singleId (r : TimedRecord) : Option Int32 :=
  match r.record.entityRef with
  | .single id => some id
  | _ => none

/-- The records a record can stand for in a squash: a column each for a multi-column load, a
change each for a multi-block change, the moves of a movement's displacement (at least one),
and one for every other record. -/
def weight (r : TimedRecord) : Nat :=
  match r.record with
  | .typed (.multiChunkData d) => d.columns.length
  | .typed (.multiBlockChange d) => d.records.length
  | .typed (.movement m) => max 1 m.moves
  | _ => 1

theorem one_le_weight {r : TimedRecord} (hc : ∀ d, r.record ≠ .typed (.multiChunkData d))
    (hb : ∀ d, r.record ≠ .typed (.multiBlockChange d)) : 1 ≤ r.weight := by
  unfold weight
  split
  · next d h => exact absurd h (hc d)
  · next d h => exact absurd h (hb d)
  · exact Nat.le_max_left _ _
  · exact Nat.le_refl 1

/-- Only records of the chunk domain may weigh nothing. -/
theorem one_le_weight_of_domain {p : Payload} (hd : p.kind.domain ≠ .chunk) (time : Int64) :
    1 ≤ weight ⟨time, .typed p⟩ :=
  one_le_weight (fun d h => hd (by cases h; rfl)) (fun d h => hd (by cases h; rfl))

end TimedRecord

/-- The ids the records of a recording name alone, in order and with repeats. -/
def singleIds (records : List TimedRecord) : List Int32 := records.filterMap TimedRecord.singleId

theorem singleIds_cons (r : TimedRecord) (rest : List TimedRecord) :
    singleIds (r :: rest) = r.singleId.toList ++ singleIds rest := by
  cases h : r.singleId <;> simp [singleIds, h]

namespace EntityTracker

variable {t : EntityTracker} {ids ids' : List Int32}

/-- Every entity the tracker holds with an orientation is one of `ids`. -/
def TurnedIn (ids : List Int32) (t : EntityTracker) : Prop :=
  ∀ id e, t.entities.find? id = some e → e.orientation.isSome = true → id ∈ ids

theorem turnedIn_empty : ({} : EntityTracker).TurnedIn ids := fun _ _ h => by cases h

theorem TurnedIn.mono (h : t.TurnedIn ids) (hsub : ids ⊆ ids') : t.TurnedIn ids' :=
  fun id e he ho => hsub (h id e he ho)

/-- A change of one entity keeps the orientations within `ids` when it turns the entity only
if it was turned already or is one of `ids`. -/
theorem TurnedIn.modify (h : t.TurnedIn ids) {id : Int32} {f : EntityState → EntityState}
    (hf : ∀ e, (f e).orientation.isSome = true → e.orientation.isSome = true ∨ id ∈ ids) :
    (t.modify id f).TurnedIn ids :=
  forall_modify (P := fun k e => e.orientation.isSome = true → k ∈ ids) h (fun h₀ => by cases h₀)
    (fun _ _ h => h) fun e he ho => (hf e ho).elim he fun h => h

theorem TurnedIn.onSpawn (h : t.TurnedIn ids) (id : Int32) (r : TimedRecord) :
    (t.onSpawn id r).TurnedIn ids :=
  h.modify fun _ ho => by cases ho

theorem TurnedIn.onTeleport (h : t.TurnedIn ids) (time : Int64) (tp : Teleport) :
    (t.onTeleport time tp).TurnedIn ids :=
  h.modify fun _ ho => by cases ho

theorem TurnedIn.onGeneric (h : t.TurnedIn ids) (id : Int32) (r : TimedRecord) :
    (t.onGeneric id r).TurnedIn ids :=
  h.modify fun _ ho => .inl ho

/-- A movement may turn only the entity it names. -/
theorem TurnedIn.onMovement (h : t.TurnedIn ids) (time : Int64) (m : Movement) :
    (t.onMovement time m).TurnedIn (ids ++ [m.entityId]) :=
  (h.mono (List.subset_append_left _ _)).modify fun _ _ => .inr (List.mem_append_right _ (.head _))

theorem TurnedIn.onDestroy (h : t.TurnedIn ids) (destroyed : List Int32) :
    (t.onDestroy destroyed).TurnedIn ids := by
  intro id e he ho
  rw [find?_onDestroy] at he
  split at he
  · cases he
  · exact h id e he ho

theorem TurnedIn.onShared (h : t.TurnedIn ids) (named : List Int32) (r : TimedRecord) :
    (t.onShared named r).TurnedIn ids := by
  rw [onShared_eq]
  refine forall_foldl_share (P := fun k e => e.orientation.isSome = true → k ∈ ids) _
    (fun _ h₀ => by cases h₀) (fun _ _ hk => ?_) named _ h
  unfold EntityState.shareStep
  split
  · exact hk
  · exact hk

/-- The turned entities are the entries holding an orientation. -/
theorem turned_eq_length_filter (t : EntityTracker) :
    t.turned = (t.entities.entries.filter fun p => p.2.orientation.isSome).length := by
  unfold turned KeyMap.values
  rw [List.map_map]
  induction t.entities.entries with
  | nil => rfl
  | cons p rest ih =>
    cases h : p.2.orientation with
    | none => simpa [h] using ih
    | some o => simp [h, ih, Nat.add_comm]

/-- Held by distinct keys, the turned entities are at most as many as the distinct `ids`. -/
theorem TurnedIn.turned_le (ht : t.entities.Sorted) (h : t.TurnedIn ids) :
    t.turned ≤ ids.dedup.length := by
  have hkeys : ((t.entities.entries.filter fun p => p.2.orientation.isSome).map Prod.fst).Nodup :=
    ht.nodup_keys.sublist (List.filter_sublist.map _)
  have hsub : (t.entities.entries.filter fun p => p.2.orientation.isSome).map Prod.fst ⊆
      ids.dedup := by
    intro k hk
    obtain ⟨p, hp, rfl⟩ := List.mem_map.mp hk
    obtain ⟨hmem, ho⟩ := List.mem_filter.mp hp
    exact List.mem_dedup.mpr (h p.1 p.2 (ht.find?_eq_some_iff.mpr hmem) ho)
  rw [turned_eq_length_filter, ← List.length_map Prod.fst]
  exact (List.subperm_of_subset hkeys hsub).length_le

end EntityTracker

namespace ChunkTracker

variable {t : ChunkTracker}

theorem foldl_onColumn (time : Int64) :
    ∀ (columns : List ChunkColumn) {t : ChunkTracker}, t.chunks.Sorted →
      (columns.foldl (·.onColumn time ·) t).chunks.Sorted ∧
        (columns.foldl (·.onColumn time ·) t).load ≤ t.load + columns.length
  | [], _, ht => ⟨ht, Nat.le_refl _⟩
  | c :: rest, t, ht => by
    obtain ⟨hs, hload⟩ := foldl_onColumn time rest (sorted_onColumn ht time c)
    have hstep := load_onColumn_le ht time c
    refine ⟨hs, ?_⟩
    simp only [List.foldl_cons, List.length_cons] at hload ⊢
    omega

theorem foldl_onBlock (time : Int64) :
    ∀ (changes : List BlockChange) {t : ChunkTracker}, t.chunks.Sorted →
      (changes.foldl (fun t c => (t.onBlock time c).1) t).chunks.Sorted ∧
        (changes.foldl (fun t c => (t.onBlock time c).1) t).load ≤ t.load + changes.length
  | [], _, ht => ⟨ht, Nat.le_refl _⟩
  | c :: rest, t, ht => by
    obtain ⟨hs, hload⟩ := foldl_onBlock time rest (sorted_onBlock ht time c)
    have hstep := load_onBlock_le ht time c
    refine ⟨hs, ?_⟩
    simp only [List.foldl_cons, List.length_cons] at hload ⊢
    omega

end ChunkTracker

namespace Squasher

/-- The records the squasher will write at the end, rotations of turned entities aside. -/
def load (s : Squasher) : Nat :=
  s.unhandled.length + s.currentWorld.length + s.windows.load + s.session.load +
    s.session.maps.size + s.entities.load + s.chunks.load + s.teams.teams.size

/-- What the size bound keeps of a squasher: its entities and columns sorted by key, and every
entity held with an orientation one of `ids`. -/
structure Sized (ids : List Int32) (s : Squasher) : Prop where
  entities : s.entities.entities.Sorted
  chunks : s.chunks.chunks.Sorted
  turned : s.entities.TurnedIn ids

/-- From `s` to `s'` the squasher stays sized for `ids`, and its load grows by at most `w`. -/
structure Grows (ids : List Int32) (w : Nat) (s s' : Squasher) : Prop where
  sized : s'.Sized ids
  load : s'.load ≤ s.load + w

variable {s s' s'' : Squasher} {ids ids' : List Int32} {w w' : Nat}

theorem sized_new (config : SquashConfig) : (new config).Sized [] :=
  ⟨KeyMap.sorted_empty, KeyMap.sorted_empty, EntityTracker.turnedIn_empty⟩

theorem load_new (config : SquashConfig) : (new config).load = 0 := rfl

theorem load_congr (h : SameState s s') : s'.load = s.load := by
  simp only [load, h.unhandled, h.currentWorld, h.windows, h.session, h.entities, h.chunks,
    h.teams]

theorem Sized.congr (hs : s.Sized ids) (h : SameState s s') : s'.Sized ids :=
  ⟨h.entities ▸ hs.entities, h.chunks ▸ hs.chunks, h.entities ▸ hs.turned⟩

theorem Sized.same (hs : s.Sized ids) (w : Nat) (h : SameState s s') : Grows ids w s s' :=
  ⟨hs.congr h, by rw [load_congr h]; exact Nat.le_add_right _ _⟩

theorem Grows.congr (h : Grows ids w s s') (h' : SameState s' s'') : Grows ids w s s'' :=
  ⟨h.sized.congr h', (load_congr h').trans_le h.load⟩

theorem Grows.of_same (h₀ : SameState s s') (h : Grows ids w s' s'') : Grows ids w s s'' :=
  ⟨h.sized, by rw [← load_congr h₀]; exact h.load⟩

theorem Grows.weaken (h : Grows ids w s s') (hw : w ≤ w') (hids : ids ⊆ ids') :
    Grows ids' w' s s' :=
  ⟨⟨h.sized.entities, h.sized.chunks, h.sized.turned.mono hids⟩, by have := h.load; omega⟩

theorem Grows.trans (h : Grows ids w s s') (h' : Grows ids' w' s' s'') :
    Grows ids' (w + w') s s'' :=
  ⟨h'.sized, by have := h.load; have := h'.load; omega⟩

theorem Sized.grows_unhandled (hs : s.Sized ids) (r : TimedRecord) (q : SquashReport) :
    Grows ids 1 s { s with unhandled := s.unhandled ++ [r], report := q } :=
  ⟨⟨hs.entities, hs.chunks, hs.turned⟩, by
    simp only [load, List.length_append, List.length_singleton]
    omega⟩

theorem Sized.passThrough (hs : s.Sized ids) (time : Int64) (rec : Record) :
    Grows ids 1 s (s.passThrough time rec) :=
  hs.grows_unhandled _ _

theorem Sized.grows_world (hs : s.Sized ids) (r : TimedRecord) :
    Grows ids 1 s { s with currentWorld := s.currentWorld ++ [r] } :=
  ⟨⟨hs.entities, hs.chunks, hs.turned⟩, by
    simp only [load, List.length_append, List.length_singleton]
    omega⟩

theorem Sized.grows_windows (hs : s.Sized ids) {wt : WindowTracker}
    (h : wt.load ≤ s.windows.load + 1) : Grows ids 1 s { s with windows := wt } :=
  ⟨⟨hs.entities, hs.chunks, hs.turned⟩, by simp only [load]; omega⟩

theorem Sized.grows_session (hs : s.Sized ids) {ss : SessionState}
    (h : ss.load + ss.maps.size ≤ s.session.load + s.session.maps.size + 1) :
    Grows ids 1 s { s with session := ss } :=
  ⟨⟨hs.entities, hs.chunks, hs.turned⟩, by simp only [load]; omega⟩

theorem Sized.grows_teams (hs : s.Sized ids) {tt : TeamTracker}
    (h : tt.teams.size ≤ s.teams.teams.size + 1) : Grows ids 1 s { s with teams := tt } :=
  ⟨⟨hs.entities, hs.chunks, hs.turned⟩, by simp only [load]; omega⟩

theorem grows_entities (hc : s.chunks.chunks.Sorted) {t : EntityTracker}
    (hsorted : t.entities.Sorted) (hturned : t.TurnedIn ids) (h : t.load ≤ s.entities.load + w) :
    Grows ids w s { s with entities := t } :=
  ⟨⟨hsorted, hc, hturned⟩, by simp only [load]; omega⟩

theorem Sized.grows_chunks (hs : s.Sized ids) {t : ChunkTracker} (hsorted : t.chunks.Sorted)
    (h : t.load ≤ s.chunks.load + w) : Grows ids w s { s with chunks := t } :=
  ⟨⟨hs.entities, hsorted, hs.turned⟩, by simp only [load]; omega⟩

/-- A respawn drops the world the client leaves, and with it what it would have written. -/
theorem Sized.resetWorld (s : Squasher) (ids : List Int32) : Grows ids 0 s s.resetWorld := by
  refine ⟨⟨KeyMap.sorted_empty, KeyMap.sorted_empty, EntityTracker.turnedIn_empty⟩, ?_⟩
  have hw := WindowTracker.load_clearCurrent_le s.windows
  have he : ({} : EntityTracker).load = 0 := rfl
  have hc : ({} : ChunkTracker).load = 0 := rfl
  simp only [Squasher.resetWorld, note, load, EntityTracker.clear, ChunkTracker.clear, he, hc,
    List.length_nil]
  omega

theorem Sized.grows_session_load (hs : s.Sized ids) {ss : SessionState}
    (h : ss.load ≤ s.session.load + 1) (hm : ss.maps = s.session.maps) :
    Grows ids 1 s { s with session := ss } :=
  hs.grows_session (by rw [hm]; omega)

theorem Grows.resetWorld (h : Grows ids w s s') : Grows ids w s s'.resetWorld :=
  ⟨(Sized.resetWorld s' ids).sized, (Sized.resetWorld s' ids).load.trans h.load⟩

theorem Sized.onWorld (hs : s.Sized ids) (time : Int64) (rec : Record) :
    Grows ids 1 s (s.onWorld time rec) := by
  unfold Squasher.onWorld
  split
  · exact hs.same 1 ⟨rfl, rfl, rfl, rfl, rfl, rfl, rfl⟩
  · exact hs.grows_world _

theorem Sized.onWindow (hs : s.Sized ids) (time : Int64) (rec : Record) :
    Grows ids 1 s (s.onWindow time rec) := by
  unfold Squasher.onWindow
  extract_lets timed report otherwise
  have hother : Grows ids 1 s otherwise := by
    simp only [otherwise]
    split
    · exact hs.same 1 ⟨rfl, rfl, rfl, rfl, rfl, rfl, rfl⟩
    · exact hs.grows_windows (WindowTracker.load_onSecondary _ _).le
  split
  · exact hs.grows_windows (WindowTracker.load_onClose _ _)
  · split
    · exact hs.grows_windows (WindowTracker.load_onMainInventory_le _ _)
    · exact hother
  · split
    · exact hs.grows_windows (WindowTracker.load_onMainSlot_le _ _ _)
    · exact hother
  · exact hother

theorem Sized.onSession (hs : s.Sized ids) (time : Int64) (rec : Record) :
    Grows ids 1 s (s.onSession time rec) := by
  unfold Squasher.onSession
  split
  · exact hs.grows_session_load (SessionState.load_le_of_scalars rfl rfl) rfl
  · refine Grows.resetWorld ?_
    exact hs.grows_session_load (SessionState.load_le_of_scalars rfl rfl) rfl
  · exact hs.grows_session_load (SessionState.load_le_of_scalars rfl rfl) rfl
  · exact hs.grows_session_load (SessionState.load_onExperience_le _ _) rfl
  · exact hs.grows_session_load (SessionState.load_onAbilities_le _ _) rfl
  · next m =>
    have := KeyMap.size_insert_le s.session.maps m.mapId m
    exact hs.grows_session (show s.session.load + (s.session.maps.insert m.mapId m).size ≤ _ by
      omega)
  · exact hs.passThrough time _

/-- An entity record adds its weight; a movement may turn the entity it names. -/
theorem Sized.onEntity (hs : s.Sized ids) (time : Int64) {p : Payload}
    (hd : p.kind.domain = .entity) :
    Grows (ids ++ (TimedRecord.singleId ⟨time, .typed p⟩).toList)
      (TimedRecord.weight ⟨time, .typed p⟩) s (s.onEntity time (.typed p)) := by
  have hw : 1 ≤ TimedRecord.weight ⟨time, .typed p⟩ :=
    TimedRecord.one_le_weight_of_domain (by rw [hd]; decide) time
  have hsub : ids ⊆ ids ++ (TimedRecord.singleId ⟨time, .typed p⟩).toList :=
    List.subset_append_left _ _
  have hsorted := hs.entities
  unfold Squasher.onEntity
  split
  · next href => exact absurd href (entityRef_ne_none hd)
  · next named href =>
    split
    · refine ⟨⟨hsorted.foldl_erase _, hs.chunks, (hs.turned.onDestroy named).mono hsub⟩, ?_⟩
      have := EntityTracker.load_onDestroy_le (t := s.entities) named
      simp only [load, List.length_append, List.length_singleton]
      omega
    · refine (grows_entities hs.chunks ?_ (hs.turned.onShared named _)
        (EntityTracker.load_onShared_le hsorted named _)).weaken hw hsub
      exact EntityTracker.sorted_foldl_share _ named _ hsorted
  · next id href =>
    have hid : (TimedRecord.singleId ⟨time, .typed p⟩).toList = [id] := by
      simp only [TimedRecord.singleId, href, Option.toList_some]
    rw [hid]
    rw [hid] at hsub
    split
    · next m heq =>
      cases heq
      have hm : m.entityId = id := by
        simp only [Record.entityRef, EntityRef.single.injEq] at href
        exact href
      subst hm
      exact grows_entities hs.chunks (EntityTracker.sorted_modify hsorted _ _)
        (hs.turned.onMovement time m)
        ((EntityTracker.load_onMovement_le hsorted time m).trans
          (Nat.add_le_add_left (Nat.le_max_right 1 m.moves) _))
    · next tp heq =>
      cases heq
      exact (grows_entities hs.chunks (EntityTracker.sorted_modify hsorted _ _)
        (hs.turned.onTeleport time tp) (EntityTracker.load_onTeleport_le hsorted time tp)).weaken
          hw hsub
    · split
      · exact (grows_entities hs.chunks (EntityTracker.sorted_modify hsorted _ _)
          (hs.turned.onSpawn id _) (EntityTracker.load_onSpawn_le hsorted id _)).weaken hw hsub
      · exact (grows_entities hs.chunks (EntityTracker.sorted_modify hsorted _ _)
          (hs.turned.onGeneric id _) (EntityTracker.load_onGeneric_le hsorted id _)).weaken hw hsub
    · next heq => cases heq

/-- A chunk record adds a column or a change for each it carries. -/
theorem Sized.onChunk (hs : s.Sized ids) (time : Int64) (rec : Record) :
    Grows ids (TimedRecord.weight ⟨time, rec⟩) s (s.onChunk time rec) := by
  unfold Squasher.onChunk
  split
  · exact hs.grows_chunks (ChunkTracker.sorted_onColumn hs.chunks time _)
      (ChunkTracker.load_onColumn_le hs.chunks time _)
  · next d =>
    obtain ⟨hsorted, hload⟩ := ChunkTracker.foldl_onColumn time d.columns hs.chunks
    exact hs.grows_chunks hsorted hload
  · next c =>
    exact (hs.grows_chunks (ChunkTracker.sorted_onBlock hs.chunks time c)
      (ChunkTracker.load_onBlock_le hs.chunks time c)).congr (sameState_onBlock s c)
  · next d =>
    obtain ⟨hsorted, hload⟩ := ChunkTracker.foldl_onBlock time d.records hs.chunks
    exact (hs.grows_chunks hsorted hload).congr (sameState_foldl_onBlock d.records s)
  · next _ _ hc _ hb =>
    exact (hs.passThrough time rec).weaken
      (TimedRecord.one_le_weight (r := ⟨time, rec⟩) (fun d h => hc d h) (fun d h => hb d h))
      (List.Subset.refl _)

/-- Taking in one record keeps the squasher sized for the ids named so far, and raises its load
by at most the record's weight. -/
theorem Sized.consume (hs : s.Sized ids) (r : TimedRecord) :
    Grows (ids ++ r.singleId.toList) r.weight s (s.consume r) := by
  obtain ⟨time, rec⟩ := r
  have h₀ := sameState_booked s time
    { s.report with recordsConsumed := s.report.recordsConsumed + 1 }
  have hs₀ := hs.congr h₀
  have hsub : ids ⊆ ids ++ (TimedRecord.singleId ⟨time, rec⟩).toList :=
    List.subset_append_left _ _
  refine Grows.of_same h₀ ?_
  unfold Squasher.consume
  cases rec with
  | raw kind data =>
    have hw : 1 ≤ TimedRecord.weight ⟨time, .raw kind data⟩ := Nat.le_refl 1
    dsimp only
    split
    · exact ((hs₀.grows_unhandled _ _).congr (sameState_note _ _)).weaken hw hsub
    · split
      · exact (hs₀.onWorld time _).weaken hw hsub
      · exact (hs₀.onWindow time _).weaken hw hsub
      · exact (hs₀.passThrough time _).weaken hw hsub
  | typed p =>
    have hw : p.kind.domain ≠ .chunk → 1 ≤ TimedRecord.weight ⟨time, .typed p⟩ :=
      fun hd => TimedRecord.one_le_weight_of_domain hd time
    dsimp only
    split
    · next hd => exact hs₀.onEntity time hd
    · exact (hs₀.onChunk time _).weaken (Nat.le_refl _) hsub
    · next hd => exact (hs₀.onWorld time _).weaken (hw (by rw [hd]; decide)) hsub
    · next hd => exact (hs₀.onWindow time _).weaken (hw (by rw [hd]; decide)) hsub
    · next hd =>
      split
      · exact (hs₀.grows_teams (TeamTracker.size_onTeam_le _ _)).weaken
          (hw (by rw [hd]; decide)) hsub
      · exact (hs₀.passThrough time _).weaken (hw (by rw [hd]; decide)) hsub
    · next hd => exact (hs₀.onSession time _).weaken (hw (by rw [hd]; decide)) hsub
    · next hd => exact (hs₀.passThrough time _).weaken (hw (by rw [hd]; decide)) hsub

/-- A whole pass raises the load by at most the total weight, and leaves turned only entities
some record named alone. -/
theorem Sized.consumeAll :
    ∀ (records : List TimedRecord) {s : Squasher} {ids : List Int32}, s.Sized ids →
      Grows (ids ++ singleIds records) (records.map TimedRecord.weight).sum s (s.consumeAll records)
  | [], s, ids, hs => by
    rw [show singleIds [] = [] from rfl, List.append_nil]
    exact hs.same 0 ⟨rfl, rfl, rfl, rfl, rfl, rfl, rfl⟩
  | r :: rest, s, ids, hs => by
    have h₁ := hs.consume r
    have h₂ := Sized.consumeAll rest h₁.sized
    rw [singleIds_cons, ← List.append_assoc, List.map_cons, List.sum_cons]
    exact h₁.trans h₂

/-- At the end the squasher writes its load, and a rotation for each turned entity. -/
theorem length_finish_le (s : Squasher) (ht : s.teams.Valid) (endTime : Int64) :
    (s.finish endTime).1.length ≤ s.load + s.entities.turned := by
  have he := s.entities.length_synthesize_le
  rw [finish_fst, List.length_append, List.length_append, List.length_mergeSort,
    TeamTracker.length_synthesize ht, SessionState.length_synthesizeMaps]
  simp only [body, List.length_append, WindowTracker.length_synthesize,
    SessionState.length_synthesizeSession, ChunkTracker.length_synthesize, load]
  omega

/-- The end writes every record the entity and chunk trackers synthesize. -/
theorem length_synthesize_le_length_finish (s : Squasher) (endTime : Int64) :
    s.entities.synthesize.length + s.chunks.synthesize.length ≤ (s.finish endTime).1.length := by
  rw [finish_fst, List.length_append, List.length_append, List.length_mergeSort]
  simp only [body, List.length_append]
  omega

end Squasher

/-- A squash writes at most the total weight of its records and one record for each entity
some record names alone, whatever the times and the end time, when its team actions fit. -/
theorem length_squash_le_weight_add (records : List TimedRecord) (endTime : Int64)
    (config : SquashConfig) (hteams : teamsFitFrom {} records = true) :
    (squash records endTime config).1.length ≤
      (records.map TimedRecord.weight).sum + (singleIds records).dedup.length := by
  have hvalid := (Squasher.teams_consumeAll records wf_empty TeamTracker.valid_empty rfl hteams
    (s := Squasher.new config)).1
  obtain ⟨hsized, hload⟩ := (Squasher.sized_new config).consumeAll records
  have hturned := hsized.turned.turned_le hsized.entities
  have hfinish := Squasher.length_finish_le _ hvalid endTime
  rw [Squasher.load_new, Nat.zero_add] at hload
  rw [List.nil_append] at hturned
  unfold squash
  omega

/-- A squash of records whose team actions fit writes at most their total weight and four
records for each entity some record names alone. -/
theorem length_squash_le (records : List TimedRecord) (endTime : Int64) (config : SquashConfig)
    (hteams : teamsFitFrom {} records = true) :
    (squash records endTime config).1.length ≤
      (records.map TimedRecord.weight).sum + 4 * (singleIds records).dedup.length := by
  have h := length_squash_le_weight_add records endTime config hteams
  omega

/-- Ten columns loaded by one record, then an entity moved a hundred blocks by one. -/
def tenColumnsFarMove : List TimedRecord :=
  [⟨0, .typed (.multiChunkData ⟨(List.range 10).map fun i =>
      ChunkColumn.lowest (Int32.ofNat i) 0⟩)⟩,
    ⟨0, .typed (.movement ⟨1, .position, Binary64.ofNat 100, Binary64.zero, Binary64.zero,
      Binary32.zero, Binary32.zero, false⟩)⟩]

theorem teamsFitFrom_tenColumnsFarMove : teamsFitFrom {} tenColumnsFarMove = true :=
  teamsFitFrom_of_teams_none (fun r hr => by
    simp only [tenColumnsFarMove, List.mem_cons, List.mem_nil_iff, or_false] at hr
    rcases hr with rfl | rfl <;> rfl) {}

theorem length_squash_le_tenColumnsFarMove :
    teamsFitFrom {} tenColumnsFarMove = true ∧
      (squash tenColumnsFarMove 0 {}).1.length ≤
        (tenColumnsFarMove.map TimedRecord.weight).sum +
          4 * (singleIds tenColumnsFarMove).dedup.length :=
  ⟨teamsFitFrom_tenColumnsFarMove,
    length_squash_le tenColumnsFarMove 0 {} teamsFitFrom_tenColumnsFarMove⟩

/-- Two records in time order, naming one entity alone, whose squash writes ten columns and at
least twenty-five moves: more than the records and four for the entity. -/
theorem tenColumnsFarMove_outgrows :
    teamsFitFrom {} tenColumnsFarMove = true ∧
      tenColumnsFarMove.Pairwise (fun a b => a.time ≤ b.time) ∧
      tenColumnsFarMove.length + 4 * (singleIds tenColumnsFarMove).dedup.length <
        (squash tenColumnsFarMove 0 {}).1.length := by
  refine ⟨teamsFitFrom_tenColumnsFarMove, by decide, ?_⟩
  have hE : (singleIds tenColumnsFarMove).dedup.length = 1 := by decide
  have hchunks : ((Squasher.new {}).consumeAll tenColumnsFarMove).chunks.load = 10 := by decide
  have hsyn : ((Squasher.new {}).consumeAll tenColumnsFarMove).entities.synthesize =
      ({ delta := (0 + toFixed (Binary64.ofNat 100), 0 + toFixed Binary64.zero,
        0 + toFixed Binary64.zero) } : EntityState).motionRecords 1 := rfl
  have hx : (0 + toFixed (Binary64.ofNat 100)).toInt = 3200 := by decide
  have hdrain := natAbs_le_length_drainSteps ((0 + toFixed (Binary64.ofNat 100)).toInt,
    (0 + toFixed Binary64.zero).toInt, (0 + toFixed Binary64.zero).toInt)
  have hfinish := Squasher.length_synthesize_le_length_finish
    ((Squasher.new {}).consumeAll tenColumnsFarMove) 0
  rw [hsyn, EntityState.motionRecords_eq, ChunkTracker.length_synthesize, hchunks] at hfinish
  simp only [List.length_append, List.length_map] at hfinish
  rw [hx] at hdrain
  have h3200 : (3200 : Int).natAbs = 3200 := rfl
  have hlen : tenColumnsFarMove.length = 2 := rfl
  unfold squash
  omega

end SessionSquash
