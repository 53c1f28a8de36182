import SessionSquash.Proofs.Squash.EntityTimes
import SessionSquash.Proofs.Squash.Chunks
import SessionSquash.Proofs.Squash.Teams
import SessionSquash.Proofs.Squash.Windows
import SessionSquash.Proofs.Squash.Session

namespace SessionSquash

set_option autoImplicit false

open ReplayView

namespace KeyMap

variable {κ ν : Type} [Ord κ]

theorem sum_erase_le (m : KeyMap κ ν) (f : ν → Nat) (k : κ) :
    ((m.erase k).values.map f).sum ≤ (m.values.map f).sum :=
  ((List.filter_sublist.map _).map _).sum_le_sum fun _ _ => Nat.zero_le _

theorem sum_foldl_erase_le (f : ν → Nat) :
    ∀ (ks : List κ) (m : KeyMap κ ν), ((ks.foldl KeyMap.erase m).values.map f).sum ≤
      (m.values.map f).sum
  | [], _ => Nat.le_refl _
  | k :: rest, m => Nat.le_trans (sum_foldl_erase_le f rest (m.erase k)) (sum_erase_le m f k)

variable [Std.TransOrd κ] [Std.LawfulEqOrd κ] [DecidableEq κ]

/-- In a sorted map, putting `v` under `k` trades, in a sum over the values, what `k` held for
`v`. -/
theorem sum_insert {m : KeyMap κ ν} (h : m.Sorted) (f : ν → Nat) (k : κ) (v : ν) :
    ((m.insert k v).values.map f).sum + ((m.find? k).map f).getD 0 =
      (m.values.map f).sum + f v := by
  obtain ⟨l⟩ := m
  simp only [Sorted] at h
  simp only [KeyMap.insert, KeyMap.values]
  induction l with
  | nil => simp [insert.go, KeyMap.find?]
  | cons e rest ih =>
    obtain ⟨k₀, v₀⟩ := e
    have hrest := (List.pairwise_cons.mp h).2
    have hhead := (List.pairwise_cons.mp h).1
    rw [find?_cons]
    unfold insert.go
    split
    · rename_i hlt
      have hne : k₀ ≠ k := fun he => by
        subst he
        simp [Std.ReflOrd.compare_self] at hlt
      have hnone : (⟨rest⟩ : KeyMap κ ν).find? k = none := by
        simp only [KeyMap.find?, Option.map_eq_none_iff, List.find?_eq_none]
        intro x hx
        have hx' : compare k x.1 = .lt := Std.TransCmp.lt_trans hlt (hhead x hx)
        simp [Std.OrientedCmp.gt_of_lt hx']
      simp only [if_neg hne, hnone, List.map_cons, List.sum_cons, Option.map_none,
        Option.getD_none]
      omega
    · rename_i heq
      have hk : k = k₀ := Std.compare_eq_iff_eq.mp heq
      subst hk
      simp only [ite_true, List.map_cons, List.sum_cons, Option.map_some, Option.getD_some]
      omega
    · rename_i hgt
      have hne : k₀ ≠ k := fun he => by
        subst he
        simp [Std.ReflOrd.compare_self] at hgt
      have := ih hrest
      simp only [if_neg hne, List.map_cons, List.sum_cons]
      omega

/-- Over a sorted map, changing what one key holds raises a sum over the values by at most `w`
when it raises that key's own term by at most `w`, an absent key counting nothing. -/
theorem sum_alter_le {m : KeyMap κ ν} (h : m.Sorted) (f : ν → Nat) (k : κ) (init : ν)
    (g : ν → ν) {w : Nat} (hg : f (g ((m.find? k).getD init)) ≤ ((m.find? k).map f).getD 0 + w) :
    ((m.alter k init g).values.map f).sum ≤ (m.values.map f).sum + w := by
  have hsum := sum_insert h f k (g ((m.find? k).getD init))
  unfold KeyMap.alter
  omega

end KeyMap

/-- The relative moves of at most 127 fixed-point units that cover a distance `x`. -/
def moves (x : Int) : Nat := (x.natAbs + 126) / 127

/-- The relative moves of at most 127 units per axis that cover a delta. -/
def deltaMoves (d : Int × Int × Int) : Nat := max (moves d.1) (max (moves d.2.1) (moves d.2.2))

theorem moves_zero : moves 0 = 0 := rfl

/-- What a drained step leaves of an axis needs one move less, unless the axis was empty. -/
theorem moves_sub_clampStep (x : Int) :
    moves (x - clampStep x) + 1 ≤ moves x ∨ (moves (x - clampStep x) = 0 ∧ moves x = 0) := by
  by_cases hx : x = 0
  · subst hx
    exact .inr ⟨rfl, rfl⟩
  · left
    unfold moves clampStep
    omega

/-- Draining a delta takes no more moves than cover it. -/
theorem length_drainSteps_le (d : Int × Int × Int) : (drainSteps d).length ≤ deltaMoves d := by
  fun_induction drainSteps d with
  | case1 d h => simp
  | case2 d hne step ih =>
    simp only [step] at ih ⊢
    have h1 := moves_sub_clampStep d.1
    have h2 := moves_sub_clampStep d.2.1
    have h3 := moves_sub_clampStep d.2.2
    have hsome : moves d.1 ≠ 0 ∨ moves d.2.1 ≠ 0 ∨ moves d.2.2 ≠ 0 := by
      unfold moves
      omega
    simp only [List.length_cons, deltaMoves] at ih ⊢
    omega

/-- A drained step carries at most 128 units, so draining a delta takes at least a 128th of its
first axis. -/
theorem natAbs_le_length_drainSteps (d : Int × Int × Int) :
    d.1.natAbs ≤ 128 * (drainSteps d).length := by
  fun_induction drainSteps d with
  | case1 d h => simp [h.1]
  | case2 d hne step ih =>
    simp only [step] at ih ⊢
    have hb := clampStep_bounds d.1
    simp only [List.length_cons]
    omega

/-- Wrapping sums of fixed-point distances need no more moves than their terms. -/
theorem moves_toInt_add_le (a b : Int64) : moves (a + b).toInt ≤ moves a.toInt + moves b.toInt := by
  rw [Int64.toInt_add]
  have hbmod : ((a.toInt + b.toInt).bmod (2 ^ 64)).natAbs ≤ (a.toInt + b.toInt).natAbs := by
    rw [Int.bmod_def]
    split <;> omega
  have hadd := Int.natAbs_add_le a.toInt b.toInt
  unfold moves
  omega

/-- The moves of a movement record's own displacement, if it carries one. -/
def Movement.moves (m : Movement) : Nat :=
  if m.kind.carriesPosition then
    deltaMoves ((toFixed m.dx).toInt, (toFixed m.dy).toInt, (toFixed m.dz).toInt)
  else 0

namespace EntityState

/-- The records a tracked entity accounts for, its last orientation aside: its own queued
records, its teleport, and the moves that cover its delta. -/
def load (e : EntityState) : Nat :=
  (ownRecords e.queue).length + e.placement.toList.length +
    deltaMoves (e.delta.1.toInt, e.delta.2.1.toInt, e.delta.2.2.toInt)

theorem load_empty : ({} : EntityState).load = 0 := rfl

theorem length_motionRecords_le (e : EntityState) (id : Int32) :
    (e.motionRecords id).length ≤ e.load - (ownRecords e.queue).length +
      e.orientation.toList.length := by
  have h := length_drainSteps_le (e.delta.1.toInt, e.delta.2.1.toInt, e.delta.2.2.toInt)
  rw [motionRecords_eq]
  simp only [List.length_append, List.length_map, load]
  omega

/-- The slots still holding a shared record. -/
def filled (slots : List (Option SharedRecord)) : Nat := slots.countP Option.isSome

/-- Replaying a queue writes no more than its own records and the shared records it takes
out of their slots. -/
theorem length_foldl_queueStep (t : EntityTracker) :
    ∀ (queue : List Queued) (slots : List (Option SharedRecord)) (out : List TimedRecord),
      (queue.foldl (queueStep t) (slots, out)).2.length +
          filled (queue.foldl (queueStep t) (slots, out)).1 ≤
        out.length + filled slots + (ownRecords queue).length
  | [], _, _ => Nat.le_refl _
  | .own r :: rest, slots, out => by
    have ih := length_foldl_queueStep t rest slots (out ++ [r])
    simp only [List.foldl_cons, queueStep, ownRecords_cons_own, List.length_append,
      List.length_cons, List.length_nil] at ih ⊢
    omega
  | .shared i :: rest, slots, out => by
    simp only [List.foldl_cons, queueStep, ownRecords_cons_shared]
    split
    · rename_i sr hi
      have ih := length_foldl_queueStep t rest (slots.set i none)
        (if sr.ids.all t.entities.contains then out ++ [sr.record] else out)
      have hlt : i < slots.length := (List.getElem?_eq_some_iff.mp hi).1
      have hset : filled (slots.set i none) + 1 = filled slots := by
        have hget : slots[i] = some sr := (List.getElem?_eq_some_iff.mp hi).2
        have hcount := List.countP_set (p := Option.isSome) (a := none) hlt
        have hpos : 0 < slots.countP Option.isSome :=
          List.countP_pos_iff.mpr ⟨some sr, List.mem_of_getElem? hi, rfl⟩
        simp only [hget, Option.isSome_some, ite_true, Option.isSome_none, Bool.false_eq_true,
          ite_false] at hcount
        unfold filled
        omega
      have hout : (if sr.ids.all t.entities.contains then out ++ [sr.record] else out).length ≤
          out.length + 1 := by
        split <;> simp
      omega
    · exact length_foldl_queueStep t rest slots out

end EntityState

namespace EntityTracker

open EntityState

/-- The records a tracker accounts for, orientations aside: each entity's load and every shared
record still waiting. -/
def load (t : EntityTracker) : Nat :=
  (t.entities.values.map EntityState.load).sum + filled t.shared

/-- The entities held with an orientation, each of which adds a rotation. -/
def turned (t : EntityTracker) : Nat :=
  (t.entities.values.map fun e => e.orientation.toList.length).sum

theorem length_foldl_entityStep (t : EntityTracker) :
    ∀ (entries : List (Int32 × EntityState)) (acc : List (Option SharedRecord) × List TimedRecord),
      (entries.foldl t.entityStep acc).2.length + filled (entries.foldl t.entityStep acc).1 ≤
        acc.2.length + filled acc.1 +
          (entries.map fun p => p.2.load + p.2.orientation.toList.length).sum
  | [], _ => by simp
  | (id, e) :: rest, (slots, out) => by
    have hq := length_foldl_queueStep t e.queue slots []
    have hm := length_motionRecords_le e id
    have hown : (ownRecords e.queue).length ≤ e.load := by
      unfold EntityState.load
      omega
    have ih := length_foldl_entityStep t rest
      ((e.queue.foldl (queueStep t) (slots, [])).1,
        out ++ (e.queue.foldl (queueStep t) (slots, [])).2 ++ e.motionRecords id)
    simp only [List.foldl_cons, entityStep, List.map_cons, List.sum_cons, List.length_append,
      List.length_nil] at ih hq ⊢
    omega

/-- A tracker writes no more records than its load and its orientations. -/
theorem length_synthesize_le (t : EntityTracker) : t.synthesize.length ≤ t.load + t.turned := by
  have h := length_foldl_entityStep t t.entities.entries (t.shared, [])
  rw [synthesize_eq]
  simp only [List.length_nil, load, turned, KeyMap.values, List.map_map] at h ⊢
  rw [List.sum_map_add] at h
  simp only [Function.comp_def] at h ⊢
  omega

variable {t : EntityTracker}

/-- A change of one entity's state raises the load by what it raises that state's load. -/
theorem load_modify_le (ht : t.entities.Sorted) (id : Int32) {f : EntityState → EntityState}
    {w : Nat} (hf : ∀ e, (f e).load ≤ e.load + w) : (t.modify id f).load ≤ t.load + w := by
  have hsum := KeyMap.sum_alter_le ht EntityState.load id {} f (w := w) (by
    cases t.entities.find? id with
    | none => simpa [load_empty] using hf {}
    | some e => simpa using hf e)
  dsimp only [load, modify]
  omega

theorem load_onSpawn_le (ht : t.entities.Sorted) (id : Int32) (r : TimedRecord) :
    (t.onSpawn id r).load ≤ t.load + 1 :=
  load_modify_le ht id fun e => by
    simp only [EntityState.load, resetMotion, ownRecords_append_own, List.length_append,
      List.length_singleton, Option.toList_none, List.length_nil]
    have : deltaMoves ((0 : Int64).toInt, (0 : Int64).toInt, (0 : Int64).toInt) = 0 := rfl
    omega

theorem load_onGeneric_le (ht : t.entities.Sorted) (id : Int32) (r : TimedRecord) :
    (t.onGeneric id r).load ≤ t.load + 1 :=
  load_modify_le ht id fun e => by
    simp only [EntityState.load, ownRecords_append_own, List.length_append,
      List.length_singleton]
    omega

theorem load_onTeleport_le (ht : t.entities.Sorted) (time : Int64) (tp : Teleport) :
    (t.onTeleport time tp).load ≤ t.load + 1 :=
  load_modify_le ht tp.entityId fun e => by
    simp only [EntityState.load, resetMotion, Option.toList_some, List.length_singleton]
    have : deltaMoves ((0 : Int64).toInt, (0 : Int64).toInt, (0 : Int64).toInt) = 0 := rfl
    omega

/-- A movement raises the load by the moves its own displacement needs. -/
theorem load_onMovement_le (ht : t.entities.Sorted) (time : Int64) (m : Movement) :
    (t.onMovement time m).load ≤ t.load + m.moves :=
  load_modify_le ht m.entityId fun e => by
    obtain ⟨lt, pl, ⟨x, y, z⟩, o, q⟩ := e
    unfold Movement.moves
    by_cases hp : m.kind.carriesPosition
    · have hx := moves_toInt_add_le x (toFixed m.dx)
      have hy := moves_toInt_add_le y (toFixed m.dy)
      have hz := moves_toInt_add_le z (toFixed m.dz)
      simp only [hp, ite_true]
      split <;> simp only [EntityState.load, deltaMoves] <;> omega
    · simp only [hp, Bool.false_eq_true, ite_false]
      split <;> simp only [EntityState.load] <;> omega

theorem load_onDestroy_le (ids : List Int32) : (t.onDestroy ids).load ≤ t.load := by
  have := KeyMap.sum_foldl_erase_le EntityState.load ids t.entities
  dsimp only [load, onDestroy]
  omega

/-- A record naming several entities waits in one new slot and adds to no entity's load. -/
theorem load_onShared_le (ht : t.entities.Sorted) (ids : List Int32) (r : TimedRecord) :
    (t.onShared ids r).load ≤ t.load + 1 := by
  rw [onShared_eq]
  have hfold : ∀ (ids : List Int32) (u : EntityTracker), u.entities.Sorted →
      (ids.foldl (fun u id => u.modify id (shareStep t.shared.length)) u).load ≤ u.load := by
    intro ids
    induction ids with
    | nil => exact fun _ _ => Nat.le_refl _
    | cons id rest ih =>
      intro u hu
      have hstep : (u.modify id (shareStep t.shared.length)).load ≤ u.load + 0 :=
        load_modify_le hu id fun e => by
          unfold shareStep
          split
          · exact Nat.le_refl _
          · simp [EntityState.load]
      exact (ih _ (sorted_modify hu id _)).trans hstep
  have hpush : ({ t with shared := t.shared ++ [some ⟨r, ids⟩] } : EntityTracker).load =
      t.load + 1 := by
    simp [load, filled, List.countP_append]
    omega
  exact (hfold ids { t with shared := t.shared ++ [some ⟨r, ids⟩] } ht).trans hpush.le

end EntityTracker

namespace ChunkState

/-- A tracked column's records: the column and each kept change. -/
def load (c : ChunkState) : Nat := c.blockChanges.size + 1

theorem size_sectionStep_le (c : ChunkState) (e : Nat × Option (List UInt8)) :
    (c.sectionStep e).blockChanges.size ≤ c.blockChanges.size := by
  obtain ⟨i, s⟩ := e
  cases s with
  | none => exact Nat.le_refl _
  | some payload => exact KeyMap.size_filter_le _ _

/-- Taking in a column only drops kept changes. -/
theorem size_apply_le (c : ChunkState) (column : ChunkColumn) :
    (c.apply column).blockChanges.size ≤ c.blockChanges.size :=
  apply_of_takeSections (P := fun c' => c'.blockChanges.size ≤ c.blockChanges.size)
    (fun _ _ h => h)
    (rel_foldl_sectionStep (R := fun c c' => c'.blockChanges.size ≤ c.blockChanges.size)
      (fun _ => Nat.le_refl _) (fun _ _ _ h h' => h'.trans h) size_sectionStep_le _ c)

end ChunkState

namespace ChunkTracker

/-- The records a tracker writes: each pending unload, and each tracked column with its kept
changes. -/
def load (t : ChunkTracker) : Nat :=
  t.pendingUnloads.size + (t.chunks.values.map ChunkState.load).sum

theorem length_synthesize (t : ChunkTracker) : t.synthesize.length = t.load := by
  rw [synthesize_eq, List.length_append, List.length_map, List.length_flatMap]
  unfold load KeyMap.size
  congr 2
  refine List.map_congr_left fun c _ => ?_
  simp [columnRecords, ChunkState.load, KeyMap.length_values]

variable {t : ChunkTracker}

theorem sorted_onColumn (ht : t.chunks.Sorted) (time : Int64) (column : ChunkColumn) :
    (t.onColumn time column).chunks.Sorted := by
  unfold onColumn
  dsimp only
  split
  · split
    · exact ht.erase _
    · exact ht
  · exact ht.alter _ _ _

theorem load_onColumn_le (ht : t.chunks.Sorted) (time : Int64) (column : ChunkColumn) :
    (t.onColumn time column).load ≤ t.load + 1 := by
  unfold onColumn
  dsimp only
  split
  · split
    · have := KeyMap.sum_erase_le t.chunks ChunkState.load (Coord.chunkKey column.x column.z)
      dsimp only [load]
      omega
    · have := KeyMap.size_insert_le t.pendingUnloads (Coord.chunkKey column.x column.z) time
      dsimp only [load]
      omega
  · have hpend := KeyMap.size_erase_le t.pendingUnloads (Coord.chunkKey column.x column.z)
    have hsum := KeyMap.sum_alter_le ht ChunkState.load (Coord.chunkKey column.x column.z)
      { firstAppearance := time, x := column.x, z := column.z } (·.apply column) (w := 1) (by
        cases t.chunks.find? (Coord.chunkKey column.x column.z) with
        | none =>
          have hfresh := ChunkState.size_apply_le
            { firstAppearance := time, x := column.x, z := column.z } column
          have hzero : ({ firstAppearance := time, x := column.x, z := column.z } :
            ChunkState).blockChanges.size = 0 := rfl
          simp only [Option.getD_none, Option.map_none, ChunkState.load]
          omega
        | some c =>
          have := ChunkState.size_apply_le c column
          simp only [Option.getD_some, Option.map_some, ChunkState.load]
          omega)
    dsimp only [load]
    omega

theorem sorted_onBlock (ht : t.chunks.Sorted) (time : Int64) (change : BlockChange) :
    (t.onBlock time change).1.chunks.Sorted := by
  rw [onBlock_fst]
  split
  · split
    · exact ht
    · exact ht.insert _ _
  · exact ht

theorem load_onBlock_le (ht : t.chunks.Sorted) (time : Int64) (change : BlockChange) :
    (t.onBlock time change).1.load ≤ t.load + 1 := by
  rw [onBlock_fst]
  split
  · next c k hc hk =>
    split
    · omega
    · have hsum := KeyMap.sum_insert ht ChunkState.load (blockKey change.position)
        { c with blockChanges := c.blockChanges.insert k (time, change) }
      have hsize := KeyMap.size_insert_le c.blockChanges k (time, change)
      rw [hc] at hsum
      simp only [Option.map_some, Option.getD_some, ChunkState.load] at hsum
      dsimp only [load]
      omega
  · omega

end ChunkTracker

namespace WindowTracker

/-- The records a window tracker writes. -/
def load (w : WindowTracker) : Nat :=
  w.currentWindow.length + w.closeRecords.length + w.mainInventory.toList.length +
    w.slotChanges.size

theorem length_synthesize (w : WindowTracker) : w.synthesize.length = w.load := by
  simp only [synthesize, load, List.length_append, KeyMap.length_values]

theorem load_onMainInventory_le (w : WindowTracker) (r : TimedRecord) :
    (w.onMainInventory r).load ≤ w.load + 1 := by
  have hzero : ({} : KeyMap Int16 TimedRecord).size = 0 := rfl
  simp only [onMainInventory, load, Option.toList_some, List.length_singleton, hzero]
  omega

theorem load_onMainSlot_le (w : WindowTracker) (slot : Int16) (r : TimedRecord) :
    (w.onMainSlot slot r).load ≤ w.load + 1 := by
  have := KeyMap.size_insert_le w.slotChanges slot r
  simp only [onMainSlot, load]
  omega

theorem load_onSecondary (w : WindowTracker) (r : TimedRecord) :
    (w.onSecondary r).load = w.load + 1 := by
  simp only [onSecondary, load, List.length_append, List.length_singleton]
  omega

theorem load_onClose (w : WindowTracker) (r : TimedRecord) :
    (w.onClose r).load ≤ w.load + 1 := by
  simp only [onClose, load, List.length_append, List.length_singleton, List.length_nil]
  omega

theorem load_clearCurrent_le (w : WindowTracker) : w.clearCurrent.load ≤ w.load := by
  simp only [clearCurrent, load, List.length_nil]
  omega

end WindowTracker

namespace SessionState

/-- The session records a state writes: the join, respawn or game mode, merged, then the
experience and the abilities. -/
def load (s : SessionState) : Nat :=
  (if s.join.isSome || s.respawn.isSome || s.gameMode.isSome then 1 else 0) +
    s.experience.toList.length + s.abilities.toList.length

theorem length_synthesizeSession (s : SessionState) (lastTime : Int64) :
    (s.synthesizeSession lastTime).length = s.load := by
  unfold synthesizeSession load
  split <;> simp_all <;> omega

theorem length_synthesizeMaps (s : SessionState) (time : Int64) :
    (s.synthesizeMaps time).length = s.maps.size := by
  simp only [synthesizeMaps, List.length_map, KeyMap.length_values]

/-- A handler that keeps the experience and the abilities adds at most the session record. -/
theorem load_le_of_scalars {s s' : SessionState} (he : s'.experience = s.experience)
    (ha : s'.abilities = s.abilities) : s'.load ≤ s.load + 1 := by
  unfold load
  rw [he, ha]
  split <;> split <;> omega

theorem load_onExperience_le (s : SessionState) (e : Experience) :
    (s.onExperience e).load ≤ s.load + 1 := by
  unfold onExperience load
  cases s.experience with
  | none =>
    simp only [Option.toList_some, Option.toList_none, List.length_singleton, List.length_nil]
    omega
  | some e' => simp

theorem load_onAbilities_le (s : SessionState) (a : Abilities) :
    (s.onAbilities a).load ≤ s.load + 1 := by
  unfold onAbilities load
  cases s.abilities <;> simp

end SessionState

namespace TeamTracker

variable {t : TeamTracker}

/-- While every team kept was created during the recording, each writes one create. -/
theorem length_synthesize (ht : t.Valid) (time : Int64) :
    (t.synthesize time).length = t.teams.size := by
  have hc : ∀ p ∈ t.teams.entries, p.2.Created := fun p hp =>
    ht.created p.1 p.2 (ht.sorted.find?_eq_some_iff.mpr hp)
  unfold synthesize KeyMap.size
  generalize t.teams.entries = l at hc
  induction l with
  | nil => rfl
  | cons p rest ih =>
    obtain ⟨name, st⟩ := p
    have hst : st.Created := hc (name, st) List.mem_cons_self
    obtain ⟨info, hi, -⟩ := hst.view_eq
    rw [List.flatMap_cons, List.length_append, ih fun q hq => hc q (List.mem_cons_of_mem _ hq)]
    dsimp only
    rw [teamRecords_of_created hst hi, List.length_map, List.length_singleton, List.length_cons]
    omega

theorem size_onTeam_le (t : TeamTracker) (r : TeamRecord) :
    (t.onTeam r).teams.size ≤ t.teams.size + 1 := by
  unfold onTeam
  split
  · exact KeyMap.size_insert_le _ _ _
  · split
    · exact (KeyMap.size_erase_le _ _).trans (Nat.le_succ _)
    all_goals exact KeyMap.size_insert_le _ _ _

end TeamTracker

end SessionSquash
