import SessionSquash.Proofs.Squash.ChunkReplay

namespace SessionSquash

set_option autoImplicit false

/-- One call on a chunk tracker. -/
inductive ChunkCall where
  | column (time : Int64) (column : ChunkColumn)
  | block (time : Int64) (change : BlockChange)
  | clear

/-- What one call does to a chunk tracker. -/
def ChunkTracker.run (t : ChunkTracker) : ChunkCall → ChunkTracker
  | .column time c => t.onColumn time c
  | .block time change => (t.onBlock time change).1
  | .clear => t.clear

namespace ChunkCall

/-- The call names the column under key `K`, loading or unloading it, or clears every key. -/
def Touches (K : UInt64) : ChunkCall → Prop
  | .column _ c => Coord.chunkKey c.x c.z = K
  | .block .. => False
  | .clear => True

/-- The call loads the column under key `K`. -/
def Loads (K : UInt64) : ChunkCall → Prop
  | .column _ c => Coord.chunkKey c.x c.z = K ∧ c.isUnload = false
  | _ => False

end ChunkCall

/-- A change key names its section and its index in the section. -/
theorem BlockPos.section_index_of_changeKey {p : BlockPos} {s : Nat} {i : UInt16}
    (h : p.changeKey = some (ChunkState.changeKey s i.toNat)) :
    Coord.sectionOf p.y = some s ∧ Coord.blockIndex p.x p.y p.z = i := by
  have hsec := BlockPos.changeKey_div h
  have hi := i.toNat_lt
  have hb := (Coord.blockIndex p.x p.y p.z).toNat_lt
  unfold BlockPos.changeKey at h
  rw [hsec, Option.map_some, Option.some.injEq] at h
  unfold ChunkState.changeKey at h hsec
  refine ⟨by rw [hsec]; congr 1; omega, UInt16.toNat_inj.mp (by omega)⟩

namespace ChunkTracker

/-- The tracker a sequence of calls leaves, from a new one. -/
def ofCalls (calls : List ChunkCall) : ChunkTracker := calls.foldl ChunkTracker.run {}

theorem ofCalls_append_singleton (calls : List ChunkCall) (c : ChunkCall) :
    ofCalls (calls ++ [c]) = (ofCalls calls).run c := by
  simp [ofCalls]

theorem ofCalls_append_cons (pre post : List ChunkCall) (c : ChunkCall) :
    ofCalls (pre ++ c :: post) = post.foldl ChunkTracker.run ((ofCalls pre).run c) := by
  simp [ofCalls]

variable {t : ChunkTracker}

theorem Tracks.run (ht : t.Tracks) (c : ChunkCall) : (t.run c).Tracks := by
  cases c with
  | column time col => exact ht.onColumn time col
  | block time change => exact ht.onBlock time change
  | clear => exact tracks_empty

theorem tracks_ofCalls (calls : List ChunkCall) : (ofCalls calls).Tracks := by
  induction calls using List.reverseRecOn with
  | nil => exact tracks_empty
  | append_singleton calls c ih =>
    rw [ofCalls_append_singleton]
    exact ih.run c

/-- What a column call leaves pending under a key: the call's time when it unloads that key's
column untracked, nothing when it loads it, and otherwise what was pending. -/
theorem find?_pendingUnloads_onColumn (t : ChunkTracker) (time : Int64) (column : ChunkColumn)
    (K : UInt64) :
    (t.onColumn time column).pendingUnloads.find? K =
      if Coord.chunkKey column.x column.z = K then
        if column.isUnload then
          if t.chunks.contains K then t.pendingUnloads.find? K else some time
        else none
      else t.pendingUnloads.find? K := by
  unfold onColumn
  dsimp only
  by_cases hK : Coord.chunkKey column.x column.z = K
  · subst hK
    by_cases hu : column.isUnload
    · by_cases hc : t.chunks.contains (Coord.chunkKey column.x column.z) <;> simp [hu, hc]
    · simp [hu]
  · by_cases hu : column.isUnload
    · by_cases hc : t.chunks.contains (Coord.chunkKey column.x column.z) <;> simp [hu, hc, hK]
    · simp [hu, hK]

/-- A call that does not name a key's column, and does not clear, keeps what is pending
there. -/
theorem find?_pendingUnloads_run {c : ChunkCall} {K : UInt64} (hc : ¬ c.Touches K) :
    (t.run c).pendingUnloads.find? K = t.pendingUnloads.find? K := by
  cases c with
  | column time col =>
    rw [ChunkTracker.run, find?_pendingUnloads_onColumn,
      if_neg (show ¬ Coord.chunkKey col.x col.z = K from hc)]
  | block time change => rw [ChunkTracker.run, (onBlock_times t time change).1]
  | clear => exact absurd trivial hc

theorem find?_pendingUnloads_foldl_run {K : UInt64} :
    ∀ (calls : List ChunkCall) (t : ChunkTracker), (∀ c ∈ calls, ¬ c.Touches K) →
      (calls.foldl ChunkTracker.run t).pendingUnloads.find? K = t.pendingUnloads.find? K
  | [], _, _ => rfl
  | c :: rest, t, h => by
    rw [List.foldl_cons, find?_pendingUnloads_foldl_run rest _
      (fun c' hc' => h c' (List.mem_cons_of_mem c hc')),
      find?_pendingUnloads_run (h c List.mem_cons_self)]

/-- An unload that finds its column untracked leaves that key pending at its time. -/
theorem find?_pendingUnloads_unload {time : Int64} {column : ChunkColumn}
    (hu : column.isUnload = true) (hnone : t.chunks.find? (Coord.chunkKey column.x column.z) = none) :
    (t.onColumn time column).pendingUnloads.find? (Coord.chunkKey column.x column.z) = some time := by
  rw [find?_pendingUnloads_onColumn, if_pos rfl, if_pos hu, if_neg (by simp [KeyMap.contains, hnone])]

/-- A call that neither loads a key's column nor clears keeps the key pending: an unload of an
untracked column pends it again. -/
theorem Tracks.pending_run (ht : t.Tracks) {c : ChunkCall} {K : UInt64} (hl : ¬ c.Loads K)
    (hc : c ≠ .clear) (hK : (t.pendingUnloads.find? K).isSome) :
    ((t.run c).pendingUnloads.find? K).isSome := by
  cases c with
  | column time col =>
    rw [ChunkTracker.run, find?_pendingUnloads_onColumn]
    split
    · rename_i hkey
      have hu : col.isUnload = true := by
        simpa [ChunkCall.Loads, hkey] using hl
      obtain ⟨u, hu'⟩ := Option.isSome_iff_exists.mp hK
      have hnone := ht.apart K u hu'
      simp [hu, KeyMap.contains, hnone]
    · exact hK
  | block time change => rwa [ChunkTracker.run, (onBlock_times t time change).1]
  | clear => exact absurd rfl hc

theorem Tracks.pending_foldl_run {K : UInt64} :
    ∀ (calls : List ChunkCall) {t : ChunkTracker}, t.Tracks →
      (∀ c ∈ calls, ¬ c.Loads K ∧ c ≠ .clear) → (t.pendingUnloads.find? K).isSome →
      ((calls.foldl ChunkTracker.run t).pendingUnloads.find? K).isSome
  | [], _, _, _, hK => hK
  | c :: rest, t, ht, hl, hK => by
    rw [List.foldl_cons]
    exact Tracks.pending_foldl_run rest (ht.run c) (fun c' h => hl c' (List.mem_cons_of_mem c h))
      (ht.pending_run (hl c List.mem_cons_self).1 (hl c List.mem_cons_self).2 hK)

/-- A key pending after a sequence of calls was pended by an unload that found its column
untracked, at the time it holds, and no later call named that column or cleared. -/
theorem exists_unload_of_pending {calls : List ChunkCall} {K : UInt64} {u : Int64} (h : (ofCalls calls).pendingUnloads.find? K = some u) :
    ∃ pre column post, calls = pre ++ .column u column :: post ∧ column.isUnload = true ∧
      Coord.chunkKey column.x column.z = K ∧ (ofCalls pre).chunks.find? K = none ∧
      ∀ c ∈ post, ¬ c.Touches K := by
  induction calls using List.reverseRecOn with
  | nil => cases h
  | append_singleton calls c ih =>
    rw [ofCalls_append_singleton] at h
    by_cases hc : c.Touches K
    · cases c with
      | column time col =>
        rw [ChunkTracker.run, find?_pendingUnloads_onColumn,
          if_pos (show Coord.chunkKey col.x col.z = K from hc)] at h
        split at h
        · rename_i hu
          split at h
          · rename_i htracked
            obtain ⟨c₀, hc₀⟩ := Option.isSome_iff_exists.mp
              ((KeyMap.contains_iff _ _).mp htracked)
            rw [(tracks_ofCalls calls).apart K u h] at hc₀
            cases hc₀
          · rename_i huntracked
            cases h
            refine ⟨calls, col, [], rfl, hu, hc, ?_, fun _ h => by cases h⟩
            exact Option.not_isSome_iff_eq_none.mp
              fun h' => huntracked ((KeyMap.contains_iff _ _).mpr h')
        · cases h
      | block => exact absurd hc id
      | clear => cases h
    · obtain ⟨pre, col, post, rfl, hu, hkey, hnone, hpost⟩ :=
        ih (by rwa [find?_pendingUnloads_run hc] at h)
      refine ⟨pre, col, post ++ [c], by simp, hu, hkey, hnone, fun c' hc' => ?_⟩
      rcases List.mem_append.mp hc' with hc' | hc'
      · exact hpost c' hc'
      · rw [List.mem_singleton.mp hc']
        exact hc

/-- The pending unloads a sequence of calls leaves: under a key, the time of an unload that
found its column untracked and after which no call named that column or cleared. -/
theorem find?_pendingUnloads_ofCalls (calls : List ChunkCall) (K : UInt64) (u : Int64) :
    (ofCalls calls).pendingUnloads.find? K = some u ↔
      ∃ pre column post, calls = pre ++ .column u column :: post ∧ column.isUnload = true ∧
        Coord.chunkKey column.x column.z = K ∧ (ofCalls pre).chunks.find? K = none ∧
        ∀ c ∈ post, ¬ c.Touches K := by
  refine ⟨exists_unload_of_pending, ?_⟩
  rintro ⟨pre, col, post, rfl, hu, rfl, hnone, hpost⟩
  rw [ofCalls_append_cons, find?_pendingUnloads_foldl_run post _ hpost]
  exact find?_pendingUnloads_unload hu hnone

/-- A key is pending exactly when some unload found its column untracked and since then no call
loaded that column and none cleared the tracker. -/
theorem pending_ofCalls_iff (calls : List ChunkCall) (K : UInt64) :
    (ofCalls calls).pendingUnloads.contains K = true ↔
      ∃ pre time column post, calls = pre ++ .column time column :: post ∧
        column.isUnload = true ∧ Coord.chunkKey column.x column.z = K ∧
        (ofCalls pre).chunks.find? K = none ∧ ∀ c ∈ post, ¬ c.Loads K ∧ c ≠ .clear := by
  rw [KeyMap.contains_iff]
  constructor
  · intro h
    obtain ⟨u, hu⟩ := Option.isSome_iff_exists.mp h
    obtain ⟨pre, col, post, hcalls', hunload, hkey, hnone, hpost⟩ := exists_unload_of_pending hu
    refine ⟨pre, u, col, post, hcalls', hunload, hkey, hnone, fun c hc => ⟨fun hl => ?_, ?_⟩⟩
    · cases c with
      | column time c' => exact hpost _ hc hl.1
      | block => exact hl
      | clear => exact hl
    · rintro rfl
      exact hpost _ hc trivial
  · rintro ⟨pre, time, col, post, rfl, hu, rfl, hnone, hpost⟩
    rw [ofCalls_append_cons]
    refine Tracks.pending_foldl_run post ((tracks_ofCalls pre).run _) hpost ?_
    rw [ChunkTracker.run, find?_pendingUnloads_unload hu hnone]
    rfl

end ChunkTracker

/-- The column a record sends, if it is a single column record. -/
def TimedRecord.column? (r : TimedRecord) : Option ChunkColumn :=
  match r.record with
  | .typed (.chunkData c) => some c
  | _ => none

namespace ChunkTracker

variable {t : ChunkTracker}

/-- The columns a tracker writes: an unload for each pending key, in key order, then each
tracked column. -/
theorem filterMap_column?_synthesize (t : ChunkTracker) :
    t.synthesize.filterMap TimedRecord.column? =
      t.pendingUnloads.entries.map (fun e => ChunkColumn.unload (Coord.keyX e.1) (Coord.keyZ e.1)) ++
        t.chunks.values.map ChunkState.toColumn := by
  rw [synthesize_eq, List.filterMap_append, List.filterMap_flatMap, List.filterMap_map]
  congr 1
  · rw [← List.filterMap_eq_map]
    exact List.filterMap_congr fun e _ => rfl
  · rw [List.map_eq_flatMap]
    congr 1
    funext c
    have hblocks : (c.blockChanges.values.map blockRecord).filterMap TimedRecord.column? = [] := by
      rw [List.filterMap_map, List.filterMap_eq_nil_iff]
      intro tc _
      rfl
    simp [columnRecords, TimedRecord.column?, hblocks]

theorem isUnload_unload (x z : Int32) : (ChunkColumn.unload x z).isUnload = true := by
  simp [ChunkColumn.unload, ChunkColumn.isUnload]

/-- A tracker writes at most one unload per key, and none for a key whose column it writes. -/
theorem Tracks.unloads_apart (ht : t.Tracks) :
    let cols := t.synthesize.filterMap TimedRecord.column?
    ((cols.filter (·.isUnload)).map fun c => Coord.chunkKey c.x c.z).Nodup ∧
      ∀ c ∈ cols, ∀ c' ∈ cols, c.isUnload = true → c'.isUnload = false →
        Coord.chunkKey c.x c.z ≠ Coord.chunkKey c'.x c'.z := by
  intro cols
  have hloaded : ∀ c ∈ t.chunks.values, ∃ K, t.chunks.find? K = some c ∧
      c.toColumn.isUnload = false := fun c hc => by
    obtain ⟨⟨K, c'⟩, hmem, rfl⟩ := List.mem_map.mp hc
    have hf := ht.sorted.find?_eq_some_iff.mpr hmem
    exact ⟨K, hf, isUnload_toColumn (ht.states K _ hf).loaded⟩
  have hcols : cols.filter (·.isUnload) =
      t.pendingUnloads.entries.map fun e => ChunkColumn.unload (Coord.keyX e.1) (Coord.keyZ e.1) := by
    simp only [cols, filterMap_column?_synthesize, List.filter_append]
    rw [List.filter_eq_self.mpr fun c hc => by
        obtain ⟨e, -, rfl⟩ := List.mem_map.mp hc
        exact isUnload_unload _ _, List.filter_eq_nil_iff.mpr]
    · simp
    · intro c hc
      obtain ⟨st, hst, rfl⟩ := List.mem_map.mp hc
      obtain ⟨K, -, hu⟩ := hloaded st hst
      simp [hu]
  refine ⟨?_, fun c hc c' hc' hu hu' => ?_⟩
  · rw [hcols, List.map_map]
    simpa [Function.comp_def, ChunkColumn.unload] using ht.unloadsSorted.nodup_keys
  · have hc₁ : c ∈ cols.filter (·.isUnload) := List.mem_filter.mpr ⟨hc, hu⟩
    rw [hcols] at hc₁
    obtain ⟨⟨K', u⟩, hK', rfl⟩ := List.mem_map.mp hc₁
    simp only [cols, filterMap_column?_synthesize, List.mem_append, List.mem_map] at hc'
    rcases hc' with ⟨⟨K'', u''⟩, -, rfl⟩ | ⟨st, hst, rfl⟩
    · simp [isUnload_unload] at hu'
    · obtain ⟨K, hK, -⟩ := hloaded st hst
      have hapart := ht.apart K' u (ht.unloadsSorted.find?_eq_some_iff.mpr hK')
      simp only [ChunkColumn.unload, ChunkState.toColumn, Coord.chunkKey_keyX_keyZ,
        (ht.states K st hK).key]
      rintro rfl
      rw [hK] at hapart
      cases hapart

end ChunkTracker

/-- The chunk tracker's representation after any sequence of column updates, block changes and
clears from a new tracker: (a) no key is both tracked and pending an unload;
(b) every tracked column sits under the key of its own coordinate and has one of its sixteen
sections, so it is never written as an unload; (c) every kept change, stored in section `s` at
index `i` of the column under key `K`, is of a position whose chunk has key `K`, whose height
lies in section `s` and whose index in it is `i`; (d) a key is pending exactly when some unload
found its column untracked and no later call loaded that column or cleared the tracker, and then
it holds the time of an unload that found its column untracked after which no call named that
column at all, the latest such unload; so the tracker writes at most one unload per key and none
for a key whose column it writes. -/
theorem chunk_tracker_representation (calls : List ChunkCall) :
    let t := ChunkTracker.ofCalls calls
    (∀ K, ¬ (t.chunks.contains K = true ∧ t.pendingUnloads.contains K = true)) ∧
      (∀ K st, t.chunks.find? K = some st → Coord.chunkKey st.x st.z = K ∧
        (∃ i < 16, ∃ payload, st.section? i = some payload) ∧ st.toColumn.isUnload = false) ∧
      (∀ K st (s : Nat) (i : UInt16) tc, t.chunks.find? K = some st →
        st.blockChanges.find? (ChunkState.changeKey s i.toNat) = some tc →
        Coord.chunkKey (Coord.chunkOfBlock tc.2.position.x tc.2.position.z).1
          (Coord.chunkOfBlock tc.2.position.x tc.2.position.z).2 = K ∧
        Coord.sectionOf tc.2.position.y = some s ∧
        Coord.blockIndex tc.2.position.x tc.2.position.y tc.2.position.z = i) ∧
      (∀ K, t.pendingUnloads.contains K = true ↔
        ∃ pre time column post, calls = pre ++ .column time column :: post ∧
          column.isUnload = true ∧ Coord.chunkKey column.x column.z = K ∧
          (ChunkTracker.ofCalls pre).chunks.find? K = none ∧
          ∀ c ∈ post, ¬ c.Loads K ∧ c ≠ .clear) ∧
      (∀ K u, t.pendingUnloads.find? K = some u ↔
        ∃ pre column post, calls = pre ++ .column u column :: post ∧ column.isUnload = true ∧
          Coord.chunkKey column.x column.z = K ∧ (ChunkTracker.ofCalls pre).chunks.find? K = none ∧
          ∀ c ∈ post, ¬ c.Touches K) ∧
      (((t.synthesize.filterMap TimedRecord.column?).filter (·.isUnload)).map
          fun c => Coord.chunkKey c.x c.z).Nodup ∧
      ∀ c ∈ t.synthesize.filterMap TimedRecord.column?,
        ∀ c' ∈ t.synthesize.filterMap TimedRecord.column?, c.isUnload = true →
          c'.isUnload = false → Coord.chunkKey c.x c.z ≠ Coord.chunkKey c'.x c'.z := by
  intro t
  have ht : t.Tracks := ChunkTracker.tracks_ofCalls calls
  obtain ⟨hnodup, hapart⟩ := ht.unloads_apart
  refine ⟨fun K ⟨hc, hu⟩ => ?_, fun K st hst => ?_, fun K st s i tc hst htc => ?_,
    ChunkTracker.pending_ofCalls_iff calls, ChunkTracker.find?_pendingUnloads_ofCalls calls,
    hnodup, hapart⟩
  · obtain ⟨u, hu⟩ := Option.isSome_iff_exists.mp ((KeyMap.contains_iff _ _).mp hu)
    rw [KeyMap.contains_iff, ht.apart K u hu] at hc
    cases hc
  · have hheld := ht.states K st hst
    obtain ⟨i, payload, hi⟩ := hheld.loaded
    have hlt : i < 16 := st.sections_length ▸ (List.getElem?_eq_some_iff.mp hi).1
    exact ⟨hheld.key, ⟨i, hlt, payload, by simp [ChunkState.section?, hi]⟩,
      ChunkTracker.isUnload_toColumn hheld.loaded⟩
  · have hheld := ht.states K st hst
    obtain ⟨hcol, hkey⟩ := hheld.keyed _ tc htc
    obtain ⟨hsec, hidx⟩ := BlockPos.section_index_of_changeKey hkey
    refine ⟨?_, hsec, hidx⟩
    rw [hcol]
    exact hheld.key

/-- An unload of a column never loaded, a load of another column with its lowest section, a
change in that column, and an unload of a third column. -/
def unloadLoadChange : List ChunkCall :=
  [.column 1 (ChunkColumn.unload 0 0),
    .column 2 (ChunkColumn.lowest 3 (-1)),
    .block 3 ⟨⟨50, 70, -3⟩, 7⟩,
    .column 4 (ChunkColumn.unload 5 5)]

theorem chunk_tracker_representation_unloadLoadChange :
    let t := ChunkTracker.ofCalls unloadLoadChange
    (∀ K, ¬ (t.chunks.contains K = true ∧ t.pendingUnloads.contains K = true)) ∧
      (∀ K st, t.chunks.find? K = some st → Coord.chunkKey st.x st.z = K ∧
        (∃ i < 16, ∃ payload, st.section? i = some payload) ∧ st.toColumn.isUnload = false) ∧
      (∀ K st (s : Nat) (i : UInt16) tc, t.chunks.find? K = some st →
        st.blockChanges.find? (ChunkState.changeKey s i.toNat) = some tc →
        Coord.chunkKey (Coord.chunkOfBlock tc.2.position.x tc.2.position.z).1
          (Coord.chunkOfBlock tc.2.position.x tc.2.position.z).2 = K ∧
        Coord.sectionOf tc.2.position.y = some s ∧
        Coord.blockIndex tc.2.position.x tc.2.position.y tc.2.position.z = i) ∧
      (∀ K, t.pendingUnloads.contains K = true ↔
        ∃ pre time column post, unloadLoadChange = pre ++ .column time column :: post ∧
          column.isUnload = true ∧ Coord.chunkKey column.x column.z = K ∧
          (ChunkTracker.ofCalls pre).chunks.find? K = none ∧
          ∀ c ∈ post, ¬ c.Loads K ∧ c ≠ .clear) ∧
      (∀ K u, t.pendingUnloads.find? K = some u ↔
        ∃ pre column post, unloadLoadChange = pre ++ .column u column :: post ∧
          column.isUnload = true ∧ Coord.chunkKey column.x column.z = K ∧
          (ChunkTracker.ofCalls pre).chunks.find? K = none ∧
          ∀ c ∈ post, ¬ c.Touches K) ∧
      (((t.synthesize.filterMap TimedRecord.column?).filter (·.isUnload)).map
          fun c => Coord.chunkKey c.x c.z).Nodup ∧
      ∀ c ∈ t.synthesize.filterMap TimedRecord.column?,
        ∀ c' ∈ t.synthesize.filterMap TimedRecord.column?, c.isUnload = true →
          c'.isUnload = false → Coord.chunkKey c.x c.z ≠ Coord.chunkKey c'.x c'.z :=
  chunk_tracker_representation unloadLoadChange

end SessionSquash
