import SessionSquash.Squash.Chunk
import SessionSquash.Proofs.Replay.Sort
import SessionSquash.Proofs.Coord

namespace SessionSquash

set_option autoImplicit false

open ReplayView

namespace ChunkState

/-- The overrides a viewer sees of kept block changes: each change at its position. -/
def overrides (changes : KeyMap Nat (Int64 × BlockChange)) : KeyMap BlockPos (Int64 × UInt32) :=
  changes.values.foldl
    (fun m (tc : Int64 × BlockChange) => m.update tc.2.position (newer tc.1 tc.2.block)) {}

/-- What a viewer sees of a tracked column. -/
def view (c : ChunkState) : ChunkView :=
  { sections := c.sections, biome := c.biome, blocks := overrides c.blockChanges }

/-- The kept change at a position of the column, if any. -/
def lookup (c : ChunkState) (pos : BlockPos) : Option (Int64 × BlockChange) :=
  if Coord.chunkOfBlock pos.x pos.z = (c.x, c.z) then pos.changeKey.bind c.blockChanges.find?
  else none

/-- Every kept change lies in the column, under its own position's key. -/
structure Keyed (c : ChunkState) : Prop where
  sorted : c.blockChanges.Sorted
  keyed : ∀ k tc, c.blockChanges.find? k = some tc →
    Coord.chunkOfBlock tc.2.position.x tc.2.position.z = (c.x, c.z) ∧
      tc.2.position.changeKey = some k

theorem Keyed.mem_values {c : ChunkState} (hc : c.Keyed) {tc : Int64 × BlockChange}
    (h : tc ∈ c.blockChanges.values) : ∃ k, c.blockChanges.find? k = some tc := by
  obtain ⟨⟨k, tc'⟩, hmem, rfl⟩ := List.mem_map.mp h
  exact ⟨k, hc.sorted.find?_eq_some_iff.mpr hmem⟩

theorem Keyed.lookup_of_find? {c : ChunkState} (hc : c.Keyed) {k : Nat}
    {tc : Int64 × BlockChange} (h : c.blockChanges.find? k = some tc) :
    c.lookup tc.2.position = some tc := by
  obtain ⟨hcol, hkey⟩ := hc.keyed k tc h
  simp [lookup, hcol, hkey, h]

/-- Two kept changes never share a position. -/
theorem Keyed.pairwise_position {c : ChunkState} (hc : c.Keyed) :
    c.blockChanges.values.Pairwise fun a b => a.2.position ≠ b.2.position := by
  unfold KeyMap.values
  rw [List.pairwise_map]
  refine hc.sorted.imp_of_mem fun {a b} ha hb hlt hpos => ?_
  have hka := (hc.keyed a.1 a.2 (hc.sorted.find?_eq_some_iff.mpr ha)).2
  have hkb := (hc.keyed b.1 b.2 (hc.sorted.find?_eq_some_iff.mpr hb)).2
  rw [hpos, hkb, Option.some.injEq] at hka
  rw [hka, Std.ReflOrd.compare_self] at hlt
  cases hlt

/-- A tracked column shows at each position its kept change there. -/
theorem find?_overrides {c : ChunkState} (hc : c.Keyed) (pos : BlockPos) :
    (overrides c.blockChanges).find? pos = (c.lookup pos).map fun tc => (tc.1, tc.2.block) := by
  unfold overrides
  rw [KeyMap.find?_foldl_update (fun tc : Int64 × BlockChange => tc.2.position)
    (fun tc => newer tc.1 tc.2.block) hc.pairwise_position]
  cases hf : c.blockChanges.values.find? fun tc => decide (tc.2.position = pos) with
  | some tc =>
    have hpos : tc.2.position = pos := by simpa using List.find?_some hf
    obtain ⟨k, hk⟩ := hc.mem_values (List.mem_of_find?_eq_some hf)
    rw [← hpos, hc.lookup_of_find? hk]
    rfl
  | none =>
    cases hl : c.lookup pos with
    | none => rfl
    | some tc =>
      exfalso
      unfold lookup at hl
      split at hl
      · rename_i hcol
        obtain ⟨k, hk, hfind⟩ := Option.bind_eq_some_iff.mp hl
        obtain ⟨hcol', hkey⟩ := hc.keyed k tc hfind
        have hpos : tc.2.position = pos :=
          BlockPos.eq_of_changeKey_eq (hcol'.trans hcol.symm) hkey hk
        have hmem : tc ∈ c.blockChanges.values :=
          List.mem_map.mpr ⟨(k, tc), hc.sorted.find?_eq_some_iff.mp hfind, rfl⟩
        exact absurd (List.find?_eq_none.mp hf tc hmem) (by simp [hpos])
      · cases hl

theorem sorted_overrides (changes : KeyMap Nat (Int64 × BlockChange)) :
    (overrides changes).Sorted :=
  KeyMap.sorted_empty.foldl_update _ _ _

theorem apply_eq (c : ChunkState) (column : ChunkColumn) :
    c.apply column =
      let c := ((List.range column.sections.length).zip column.sections).foldl sectionStep c
      match column.biome with
      | some b => { c with biome := some b }
      | none => c :=
  rfl

/-- The sections of a column taken in one after another, before its biome. -/
def takeSections (c : ChunkState) (column : ChunkColumn) : ChunkState :=
  ((List.range column.sections.length).zip column.sections).foldl sectionStep c

/-- What a biome leaves alone holds once a column is taken in when it holds once the column's
sections are. -/
theorem apply_of_takeSections {P : ChunkState → Prop} {c : ChunkState} {column : ChunkColumn}
    (hbiome : ∀ c' b, P c' → P { c' with biome := some b }) (h : P (c.takeSections column)) :
    P (c.apply column) := by
  rw [apply_eq]
  cases column.biome with
  | none => exact h
  | some b => exact hbiome _ b h

/-- A reflexive and transitive relation that every section's intake makes holds between a column
state and the state any sections lead it to. -/
theorem rel_foldl_sectionStep {R : ChunkState → ChunkState → Prop} (hrefl : ∀ c, R c c)
    (htrans : ∀ a b c, R a b → R b c → R a c) (hstep : ∀ c e, R c (c.sectionStep e)) :
    ∀ (l : List (Nat × Option (List UInt8))) (c : ChunkState), R c (l.foldl sectionStep c) := by
  intro l
  induction l with
  | nil => exact hrefl
  | cons e rest ih => exact fun c => htrans _ _ _ (hstep c e) (ih _)

theorem Keyed.filter {c : ChunkState} (hc : c.Keyed) (p : Nat → Bool) :
    ({ c with blockChanges := c.blockChanges.filter p } : ChunkState).Keyed where
  sorted := hc.sorted.filter p
  keyed k tc h := by
    rw [KeyMap.find?_filter] at h
    split at h
    · exact hc.keyed k tc h
    · cases h

theorem Keyed.sectionStep {c : ChunkState} (hc : c.Keyed) (e : Nat × Option (List UInt8)) :
    (c.sectionStep e).Keyed := by
  obtain ⟨i, s⟩ := e
  cases s with
  | none => exact hc
  | some payload => exact ⟨(hc.filter _).sorted, (hc.filter _).keyed⟩

theorem Keyed.foldl_sectionStep {c : ChunkState} (hc : c.Keyed) :
    ∀ l : List (Nat × Option (List UInt8)), (l.foldl ChunkState.sectionStep c).Keyed := by
  intro l
  induction l generalizing c with
  | nil => exact hc
  | cons e rest ih => exact ih (hc.sectionStep e)

/-- Dropping the changes of a section drops the overrides at its heights. -/
theorem overrides_filter {c : ChunkState} (hc : c.Keyed) (i : Nat) :
    overrides (c.blockChanges.filter fun k => k / 65536 != i) =
      (overrides c.blockChanges).filter fun pos => Coord.sectionOf pos.y != some i := by
  apply KeyMap.ext (sorted_overrides _) ((sorted_overrides _).filter _)
  intro pos
  rw [find?_overrides (hc.filter _), KeyMap.find?_filter, find?_overrides hc]
  unfold lookup
  dsimp only
  split
  · cases hk : pos.changeKey with
    | none => simp
    | some k =>
      rw [BlockPos.changeKey_div hk]
      simp only [Option.bind_some, KeyMap.find?_filter]
      by_cases hi : k / 65536 = i <;> simp [hi]
  · simp

end ChunkState

namespace ChunkState

theorem view_sectionStep {c : ChunkState} (hc : c.Keyed) (e : Nat × Option (List UInt8)) :
    (c.sectionStep e).view = c.view.loadStep e.swap := by
  obtain ⟨i, s⟩ := e
  cases s with
  | none => rfl
  | some payload =>
    simp only [sectionStep, view, ChunkView.loadStep, Prod.swap_prod_mk]
    rw [overrides_filter hc]

/-- The sections a column sends, taken in one after another, from index `i` on. -/
theorem view_foldl_sectionStep :
    ∀ (sections : List (Option (List UInt8))) (i : Nat) {c : ChunkState}, c.Keyed →
      (((List.range' i sections.length).zip sections).foldl sectionStep c).view =
        (sections.zip (List.range' i sections.length)).foldl ChunkView.loadStep c.view
  | [], _, _, _ => rfl
  | s :: rest, i, c, hc => by
    rw [List.length_cons, List.range'_succ, List.zip_cons_cons, List.zip_cons_cons,
      List.foldl_cons, List.foldl_cons, view_foldl_sectionStep rest (i + 1) (hc.sectionStep _),
      view_sectionStep hc]
    rfl

/-- A tracked column takes in a column record as a viewer does. -/
theorem view_apply {c : ChunkState} (hc : c.Keyed) (column : ChunkColumn) :
    (c.apply column).view = c.view.load column := by
  rw [apply_eq, ChunkView.load_eq, List.zipIdx_eq_zip_range', List.range_eq_range']
  dsimp only
  have hfold := view_foldl_sectionStep column.sections 0 hc
  cases hb : column.biome with
  | none =>
    simp only [Option.isSome_none, Bool.false_eq_true, if_false]
    exact hfold
  | some b =>
    simp only [Option.isSome_some, if_true]
    rw [← hfold]
    rfl

theorem Keyed.apply {c : ChunkState} (hc : c.Keyed) (column : ChunkColumn) :
    (c.apply column).Keyed :=
  apply_of_takeSections (fun _ _ h => ⟨h.sorted, h.keyed⟩) (hc.foldl_sectionStep _)

theorem view_fresh (time : Int64) (x z : Int32) :
    ({ firstAppearance := time, x, z } : ChunkState).view = ChunkView.empty :=
  rfl

theorem keyed_fresh (time : Int64) (x z : Int32) :
    ({ firstAppearance := time, x, z } : ChunkState).Keyed :=
  ⟨KeyMap.sorted_empty, fun _ _ h => by cases h⟩

/-- Some section has been sent. -/
def Loaded (c : ChunkState) : Prop :=
  ∃ (i : Nat) (payload : List UInt8), c.sections[i]? = some (some payload)

theorem Loaded.sectionStep {c : ChunkState} (hc : c.Loaded) (e : Nat × Option (List UInt8)) :
    (c.sectionStep e).Loaded := by
  obtain ⟨i, s⟩ := e
  obtain ⟨j, payload, hj⟩ := hc
  cases s with
  | none => exact ⟨j, payload, hj⟩
  | some q =>
    by_cases hij : i = j
    · subst hij
      refine ⟨i, q, ?_⟩
      simp [ChunkState.sectionStep, (List.getElem?_eq_some_iff.mp hj).1]
    · exact ⟨j, payload, by simp [ChunkState.sectionStep, hij, hj]⟩

theorem Loaded.foldl_sectionStep {c : ChunkState} (hc : c.Loaded) :
    ∀ l : List (Nat × Option (List UInt8)), (l.foldl ChunkState.sectionStep c).Loaded := by
  intro l
  induction l generalizing c with
  | nil => exact hc
  | cons e rest ih => exact ih (hc.sectionStep e)

/-- A section sent within the column's sixteen makes it loaded, whatever follows. -/
theorem loaded_foldl_sectionStep :
    ∀ (l : List (Nat × Option (List UInt8))) {c : ChunkState} {i : Nat} {payload : List UInt8},
      (i, some payload) ∈ l → i < 16 → (l.foldl ChunkState.sectionStep c).Loaded
  | [], _, _, _, h, _ => by cases h
  | e :: rest, c, i, payload, h, hi => by
    rw [List.foldl_cons]
    rcases List.mem_cons.mp h with rfl | h
    · apply Loaded.foldl_sectionStep
      exact ⟨i, payload, by simp [sectionStep, c.sections_length, hi]⟩
    · exact loaded_foldl_sectionStep rest h hi

theorem Loaded.apply {c : ChunkState} (hc : c.Loaded) (column : ChunkColumn) :
    (c.apply column).Loaded :=
  apply_of_takeSections (fun _ _ h => h) (hc.foldl_sectionStep _)

/-- A column that is no unload leaves the column it is taken into loaded. -/
theorem loaded_apply (c : ChunkState) {column : ChunkColumn} (hu : column.isUnload = false) :
    (c.apply column).Loaded := by
  obtain ⟨s, hs, hsome⟩ : ∃ s ∈ column.sections, s ≠ none := by
    simpa [ChunkColumn.isUnload] using hu
  obtain ⟨payload, rfl⟩ := Option.ne_none_iff_exists'.mp hsome
  obtain ⟨i, hi⟩ := List.mem_iff_getElem?.mp hs
  have hlt : i < column.sections.length := (List.getElem?_eq_some_iff.mp hi).1
  have hmem : (i, some payload) ∈ (List.range column.sections.length).zip column.sections := by
    apply List.mem_iff_getElem?.mpr
    exact ⟨i, by simp [hlt, (List.getElem?_eq_some_iff.mp hi).2]⟩
  exact apply_of_takeSections (fun _ _ h => h)
    (loaded_foldl_sectionStep _ hmem (column.sections_length ▸ hlt))

/-- What taking in a column keeps of a tracked column: its place and first appearance, and
no change it did not already hold. -/
structure Shrinks (c c' : ChunkState) : Prop where
  x : c'.x = c.x
  z : c'.z = c.z
  firstAppearance : c'.firstAppearance = c.firstAppearance
  changes : ∀ k tc, c'.blockChanges.find? k = some tc → c.blockChanges.find? k = some tc

theorem Shrinks.refl (c : ChunkState) : c.Shrinks c := ⟨rfl, rfl, rfl, fun _ _ h => h⟩

theorem Shrinks.trans {c c' c'' : ChunkState} (h : c.Shrinks c') (h' : c'.Shrinks c'') :
    c.Shrinks c'' :=
  ⟨h'.x.trans h.x, h'.z.trans h.z, h'.firstAppearance.trans h.firstAppearance,
    fun k tc hk => h.changes k tc (h'.changes k tc hk)⟩

theorem shrinks_sectionStep (c : ChunkState) (e : Nat × Option (List UInt8)) :
    c.Shrinks (c.sectionStep e) := by
  obtain ⟨i, s⟩ := e
  cases s with
  | none => exact Shrinks.refl c
  | some payload =>
    refine ⟨rfl, rfl, rfl, fun k tc hk => ?_⟩
    simp only [sectionStep, KeyMap.find?_filter] at hk
    split at hk
    · exact hk
    · cases hk

theorem shrinks_apply (c : ChunkState) (column : ChunkColumn) : c.Shrinks (c.apply column) :=
  apply_of_takeSections (fun _ _ h => ⟨h.x, h.z, h.firstAppearance, h.changes⟩)
    (rel_foldl_sectionStep Shrinks.refl (fun _ _ _ h h' => h.trans h') shrinks_sectionStep _ c)

/-- A tracked column under key `K`, whatever the times it saw: its changes keyed, one section
sent. -/
structure Held (K : UInt64) (c : ChunkState) : Prop extends c.Keyed where
  key : Coord.chunkKey c.x c.z = K
  loaded : c.Loaded

/-- A tracked column under key `K`: its changes keyed, one section sent, and no change older
than the column. -/
structure Valid (K : UInt64) (c : ChunkState) : Prop extends c.Keyed where
  key : Coord.chunkKey c.x c.z = K
  loaded : c.Loaded
  early : ∀ k tc, c.blockChanges.find? k = some tc → c.firstAppearance ≤ tc.1

theorem Valid.held {K : UInt64} {c : ChunkState} (hc : c.Valid K) : c.Held K :=
  ⟨hc.toKeyed, hc.key, hc.loaded⟩

/-- A column that is no unload, taken into the column held under its key or into a fresh one,
leaves a column held under that key. -/
theorem held_apply {K : UInt64} {o : Option ChunkState} (ho : ∀ c, o = some c → c.Held K)
    (time : Int64) {column : ChunkColumn} (hK : Coord.chunkKey column.x column.z = K)
    (hu : column.isUnload = false) :
    ((o.getD { firstAppearance := time, x := column.x, z := column.z }).apply column).Held K := by
  cases o with
  | none =>
    have hs := shrinks_apply { firstAppearance := time, x := column.x, z := column.z } column
    rw [Option.getD_none]
    refine ⟨(keyed_fresh _ _ _).apply column, ?_, loaded_apply _ hu⟩
    rw [hs.x, hs.z]
    exact hK
  | some c =>
    have hc := ho c rfl
    have hs := shrinks_apply c column
    rw [Option.getD_some]
    refine ⟨hc.toKeyed.apply column, ?_, hc.loaded.apply column⟩
    rw [hs.x, hs.z, hc.key]

/-- A change stored under the key of its position is what the column then holds there. -/
theorem lookup_insert {c : ChunkState} {k : Nat} (tc : Int64 × BlockChange)
    (hcol : Coord.chunkOfBlock tc.2.position.x tc.2.position.z = (c.x, c.z))
    (hk : tc.2.position.changeKey = some k) (pos : BlockPos) :
    ({ c with blockChanges := c.blockChanges.insert k tc } : ChunkState).lookup pos =
      if pos = tc.2.position then some tc else c.lookup pos := by
  unfold lookup
  dsimp only
  by_cases hpos : pos = tc.2.position
  · subst hpos
    simp [hcol, hk]
  · rw [if_neg hpos]
    split
    · rename_i hcol'
      cases hk' : pos.changeKey with
      | none => rfl
      | some k' =>
        have hne : k ≠ k' := fun he => hpos
          (BlockPos.eq_of_changeKey_eq (hcol'.trans hcol.symm) hk' (he ▸ hk))
        simp [hne]
    · rfl

theorem Keyed.insert {c : ChunkState} (hc : c.Keyed) {k : Nat} (tc : Int64 × BlockChange)
    (hcol : Coord.chunkOfBlock tc.2.position.x tc.2.position.z = (c.x, c.z))
    (hk : tc.2.position.changeKey = some k) :
    ({ c with blockChanges := c.blockChanges.insert k tc } : ChunkState).Keyed where
  sorted := hc.sorted.insert k tc
  keyed k' tc' h := by
    simp only [KeyMap.find?_insert] at h
    split at h
    · rename_i hkk
      cases h
      exact ⟨hcol, hkk ▸ hk⟩
    · exact hc.keyed k' tc' h

/-- Storing a strictly newer change at a position writes it over the override there. -/
theorem overrides_insert {c : ChunkState} (hc : c.Keyed) {k : Nat} {time : Int64}
    {change : BlockChange}
    (hcol : Coord.chunkOfBlock change.position.x change.position.z = (c.x, c.z))
    (hk : change.position.changeKey = some k)
    (hnew : (c.blockChanges.find? k).any (fun tc => decide (time ≤ tc.1)) = false) :
    overrides (c.blockChanges.insert k (time, change)) =
      (overrides c.blockChanges).update change.position (newer time change.block) := by
  apply KeyMap.ext (sorted_overrides _) ((sorted_overrides _).update _ _)
  intro pos
  have hins := @find?_overrides { c with blockChanges := c.blockChanges.insert k (time, change) }
    (hc.insert (time, change) hcol hk) pos
  dsimp only at hins
  rw [hins, lookup_insert (time, change) hcol hk, KeyMap.find?_update, find?_overrides hc]
  by_cases hpos : pos = change.position
  · subst hpos
    have hl : c.lookup change.position = c.blockChanges.find? k := by simp [lookup, hcol, hk]
    rw [if_pos rfl, if_pos rfl, hl]
    cases hf : c.blockChanges.find? k with
    | none => rfl
    | some tc =>
      rw [hf] at hnew
      simp only [Option.any_some, decide_eq_false_iff_not] at hnew
      simp [newer, hnew]
  · rw [if_neg hpos, if_neg (Ne.symm hpos), find?_overrides hc]

end ChunkState

namespace ChunkTracker

open ChunkState

/-- The loaded columns a tracker stands for. -/
def view (t : ChunkTracker) : KeyMap UInt64 ChunkView :=
  t.chunks.filterMapValues fun c => some c.view

/-- What a tracker keeps for its view to be the loaded columns: sorted maps, valid columns
under their own keys, and pending unloads only of untracked columns. -/
structure Valid (t : ChunkTracker) : Prop where
  sorted : t.chunks.Sorted
  unloadsSorted : t.pendingUnloads.Sorted
  states : ∀ K c, t.chunks.find? K = some c → c.Valid K
  apart : ∀ K u, t.pendingUnloads.find? K = some u → t.chunks.find? K = none

/-- What a tracker keeps, whatever the times it saw, for its view to be the loaded columns. -/
structure Tracks (t : ChunkTracker) : Prop where
  sorted : t.chunks.Sorted
  unloadsSorted : t.pendingUnloads.Sorted
  states : ∀ K c, t.chunks.find? K = some c → c.Held K
  apart : ∀ K u, t.pendingUnloads.find? K = some u → t.chunks.find? K = none

theorem find?_view {t : ChunkTracker} (ht : t.chunks.Sorted) (K : UInt64) :
    t.view.find? K = (t.chunks.find? K).map ChunkState.view := by
  rw [view, KeyMap.find?_filterMapValues ht]
  cases t.chunks.find? K <;> rfl

variable {t : ChunkTracker}

theorem Valid.tracks (ht : t.Valid) : t.Tracks :=
  ⟨ht.sorted, ht.unloadsSorted, fun K c h => (ht.states K c h).held, ht.apart⟩

/-- A tracker is valid when it tracks its columns and none holds a change older than itself. -/
theorem Tracks.valid (ht : t.Tracks)
    (he : ∀ K c, t.chunks.find? K = some c →
      ∀ k tc, c.blockChanges.find? k = some tc → c.firstAppearance ≤ tc.1) : t.Valid :=
  ⟨ht.sorted, ht.unloadsSorted, fun K c h =>
    ⟨(ht.states K c h).toKeyed, (ht.states K c h).key, (ht.states K c h).loaded, he K c h⟩,
    ht.apart⟩

/-- The column a tracker holds under a key after a column record: the record taken into what it
held there or into a fresh column, none after an unload, and under any other key what it held. -/
theorem find?_onColumn (t : ChunkTracker) (time : Int64) (column : ChunkColumn) (K : UInt64) :
    (t.onColumn time column).chunks.find? K =
      if Coord.chunkKey column.x column.z = K then
        if column.isUnload then none
        else some (((t.chunks.find? K).getD
          { firstAppearance := time, x := column.x, z := column.z }).apply column)
      else t.chunks.find? K := by
  unfold onColumn
  dsimp only
  by_cases hu : column.isUnload
  · rw [if_pos hu]
    by_cases hc : t.chunks.contains (Coord.chunkKey column.x column.z)
    · rw [if_pos hc]
      simp only [KeyMap.find?_erase, hu, if_true]
    · rw [if_neg hc]
      have hnone : t.chunks.find? (Coord.chunkKey column.x column.z) = none := by
        simpa [KeyMap.contains] using hc
      split
      · next hk =>
        rw [← hk]
        exact hnone
      · rfl
  · rw [if_neg hu]
    simp only [KeyMap.find?_alter, hu]
    split
    · next hk => rw [hk]; rfl
    · rfl

theorem view_onColumn (ht : t.Tracks) (time : Int64) (column : ChunkColumn) :
    (t.onColumn time column).view =
      t.view.update (Coord.chunkKey column.x column.z) (columnUpdate column) := by
  unfold onColumn
  dsimp only
  by_cases hu : column.isUnload
  · have hnone : columnUpdate column = fun _ => none := by
      funext o
      simp [columnUpdate, hu]
    rw [if_pos hu, hnone]
    split
    · simp only [view]
      rw [KeyMap.erase_eq_update, KeyMap.filterMapValues_update ht.sorted]
      rfl
    · rename_i hc
      refine (KeyMap.update_of_eq (ht.sorted.filterMapValues _) ?_).symm
      rw [KeyMap.find?_filterMapValues ht.sorted]
      cases hf : t.chunks.find? (Coord.chunkKey column.x column.z) with
      | none => rfl
      | some c => simp [KeyMap.contains, hf] at hc
  · rw [if_neg hu]
    have halter : ∀ (fresh : ChunkState), t.chunks.alter (Coord.chunkKey column.x column.z) fresh
        (·.apply column) = t.chunks.update (Coord.chunkKey column.x column.z)
          fun o => some ((o.getD fresh).apply column) := fun _ => rfl
    simp only [view]
    rw [halter, KeyMap.filterMapValues_update ht.sorted]
    apply KeyMap.update_congr
    rw [KeyMap.find?_filterMapValues ht.sorted]
    cases hc : t.chunks.find? (Coord.chunkKey column.x column.z) with
    | none =>
      have hfresh := view_apply (keyed_fresh time column.x column.z) column
      rw [view_fresh] at hfresh
      simpa [columnUpdate, hu] using hfresh
    | some c =>
      simp [columnUpdate, hu, view_apply (ht.states _ c hc).toKeyed]

/-- Taking in a column record keeps what the tracker tracks, at any time. -/
theorem Tracks.onColumn (ht : t.Tracks) (time : Int64) (column : ChunkColumn) :
    (t.onColumn time column).Tracks := by
  unfold ChunkTracker.onColumn
  dsimp only
  split
  · split
    · refine ⟨ht.sorted.erase _, ht.unloadsSorted, fun K c hK => ?_, fun K u hK => ?_⟩
      · rw [KeyMap.find?_erase] at hK
        split at hK
        · cases hK
        · exact ht.states K c hK
      · rw [KeyMap.find?_erase]
        split
        · rfl
        · exact ht.apart K u hK
    · rename_i hc
      refine ⟨ht.sorted, ht.unloadsSorted.insert _ _, ht.states, fun K u hK => ?_⟩
      rw [KeyMap.find?_insert] at hK
      split at hK
      · rename_i hkey
        subst hkey
        cases hf : t.chunks.find? (Coord.chunkKey column.x column.z) with
        | none => rfl
        | some c => simp [KeyMap.contains, hf] at hc
      · exact ht.apart K u hK
  · rename_i hu
    refine ⟨ht.sorted.alter _ _ _, ht.unloadsSorted.erase _, fun K c hK => ?_, fun K u hK => ?_⟩
    · rw [KeyMap.find?_alter] at hK
      split at hK
      · rename_i hkey
        subst hkey
        cases hK
        exact held_apply (fun c hc => ht.states _ c hc) time rfl (by simpa using hu)
      · exact ht.states K c hK
    · rw [KeyMap.find?_erase] at hK
      split at hK
      · cases hK
      · rename_i hkey
        rw [KeyMap.find?_alter, if_neg hkey]
        exact ht.apart K u hK

/-- Taking in a column record keeps the tracker valid. -/
theorem Valid.onColumn (ht : t.Valid) (time : Int64) (column : ChunkColumn) :
    (t.onColumn time column).Valid := by
  refine (ht.tracks.onColumn time column).valid fun K c hK k tc hk => ?_
  rw [find?_onColumn] at hK
  split at hK
  · split at hK
    · cases hK
    · cases hK
      cases hf : t.chunks.find? K with
      | none =>
        rw [hf, Option.getD_none] at hk
        cases (shrinks_apply _ column).changes k tc hk
      | some c =>
        rw [hf, Option.getD_some] at hk
        rw [Option.getD_some]
        have hs := shrinks_apply c column
        rw [hs.firstAppearance]
        exact (ht.states K c hf).early k tc (hs.changes k tc hk)
  · exact (ht.states K c hK).early k tc hk

/-- A block change is stored in its column, unless no tracked column holds its position or a
change at least as new is stored there already. -/
theorem onBlock_fst (t : ChunkTracker) (time : Int64) (change : BlockChange) :
    (t.onBlock time change).1 =
      match t.chunks.find? (blockKey change.position), change.position.changeKey with
      | some c, some k =>
        if (c.blockChanges.find? k).any (fun tc => decide (time ≤ tc.1)) then t
        else
          { t with
            chunks := t.chunks.insert (blockKey change.position)
              { c with blockChanges := c.blockChanges.insert k (time, change) } }
      | _, _ => t := by
  have hkey : Coord.chunkKey (change.position.x >>> 4) (change.position.z >>> 4) =
      blockKey change.position := rfl
  unfold ChunkTracker.onBlock BlockPos.changeKey
  simp only [Coord.chunkOfBlock, hkey]
  cases t.chunks.find? (blockKey change.position) with
  | none => rfl
  | some c =>
    cases Coord.sectionOf change.position.y with
    | none => rfl
    | some level =>
      simp only [Option.map_some, ChunkState.changeKey]
      cases c.blockChanges.find? (level * 65536 + (Coord.blockIndex change.position.x
        change.position.y change.position.z).toNat) with
      | none => rfl
      | some tc =>
        obtain ⟨stored, old⟩ := tc
        by_cases ht : time ≤ stored <;> simp [ht]

theorem chunkOfBlock_of_find? (ht : t.Tracks) {change : BlockChange} {c : ChunkState}
    (hc : t.chunks.find? (blockKey change.position) = some c) :
    Coord.chunkOfBlock change.position.x change.position.z = (c.x, c.z) := by
  obtain ⟨hx, hz⟩ := Coord.chunkKey_inj (ht.states _ c hc).key
  rw [hx, hz]

theorem view_onBlock (ht : t.Tracks) (time : Int64) (change : BlockChange) :
    (t.onBlock time change).1.view =
      t.view.update (blockKey change.position) (blockUpdate time change) := by
  rw [onBlock_fst]
  cases hc : t.chunks.find? (blockKey change.position) with
  | none =>
    refine (KeyMap.update_of_eq (ht.sorted.filterMapValues _) ?_).symm
    rw [KeyMap.find?_filterMapValues ht.sorted, hc]
    simp only [blockUpdate]
    split <;> rfl
  | some c =>
    have hkeyed := (ht.states _ c hc).toKeyed
    have hcol := chunkOfBlock_of_find? ht hc
    cases hk : change.position.changeKey with
    | none =>
      have hs : Coord.sectionOf change.position.y = none := by
        simpa [BlockPos.changeKey] using hk
      refine (KeyMap.update_of_eq (ht.sorted.filterMapValues _) ?_).symm
      rw [KeyMap.find?_filterMapValues ht.sorted, hc]
      simp [blockUpdate, hs]
    | some k =>
      have hs := BlockPos.changeKey_div hk
      have hl : c.lookup change.position = c.blockChanges.find? k := by
        simp [ChunkState.lookup, hcol, hk]
      simp only
      split
      · rename_i hany
        refine (KeyMap.update_of_eq (ht.sorted.filterMapValues _) ?_).symm
        rw [KeyMap.find?_filterMapValues ht.sorted, hc]
        obtain ⟨tc, hf, hle⟩ := (Option.any_eq_true _ _).mp hany
        have hnewer : newer time change.block ((overrides c.blockChanges).find? change.position) =
            (overrides c.blockChanges).find? change.position := by
          rw [find?_overrides hkeyed, hl, hf]
          simp [newer, of_decide_eq_true hle]
        simp only [Option.bind_some, blockUpdate, hs, Option.map_some, ChunkView.setBlock,
          ChunkState.view]
        rw [KeyMap.update_of_eq (sorted_overrides _) hnewer]
      · rename_i hany
        simp only [view]
        rw [KeyMap.insert_eq_update, KeyMap.filterMapValues_update ht.sorted]
        apply KeyMap.update_congr
        rw [KeyMap.find?_filterMapValues ht.sorted, hc]
        simp only [Option.bind_some, blockUpdate, hs, Option.map_some, ChunkView.setBlock,
          ChunkState.view]
        rw [overrides_insert hkeyed hcol hk (by simpa using hany)]

/-- Taking in a block change keeps what the tracker tracks, at any time. -/
theorem Tracks.onBlock (ht : t.Tracks) (time : Int64) (change : BlockChange) :
    (t.onBlock time change).1.Tracks := by
  rw [onBlock_fst]
  cases hc : t.chunks.find? (blockKey change.position) with
  | none => exact ht
  | some c =>
    cases hk : change.position.changeKey with
    | none => exact ht
    | some k =>
      simp only
      split
      · exact ht
      · have hv := ht.states _ c hc
        have hcol := chunkOfBlock_of_find? ht hc
        refine ⟨ht.sorted.insert _ _, ht.unloadsSorted, fun K c' hK => ?_, fun K u hK => ?_⟩
        · rw [KeyMap.find?_insert] at hK
          split at hK
          · rename_i hkey
            subst hkey
            cases hK
            exact ⟨hv.toKeyed.insert (time, change) hcol hk, hv.key, hv.loaded⟩
          · exact ht.states K c' hK
        · rw [KeyMap.find?_insert]
          split
          · rename_i hkey
            subst hkey
            rw [ht.apart _ u hK] at hc
            cases hc
          · exact ht.apart K u hK

/-- Taking in a block change keeps the tracker valid, when the change is no older than the
column holding it. -/
theorem Valid.onBlock (ht : t.Valid) {time : Int64} (change : BlockChange)
    (hearly : ∀ c, t.chunks.find? (blockKey change.position) = some c →
      c.firstAppearance ≤ time) : (t.onBlock time change).1.Valid := by
  refine (ht.tracks.onBlock time change).valid fun K c' hK k' tc hk' => ?_
  rw [onBlock_fst] at hK
  cases hc : t.chunks.find? (blockKey change.position) with
  | none =>
    simp only [hc] at hK
    exact (ht.states K c' hK).early k' tc hk'
  | some c =>
    cases hk : change.position.changeKey with
    | none =>
      simp only [hc, hk] at hK
      exact (ht.states K c' hK).early k' tc hk'
    | some k =>
      simp only [hc, hk] at hK
      split at hK
      · exact (ht.states K c' hK).early k' tc hk'
      · rw [KeyMap.find?_insert] at hK
        split at hK
        · cases hK
          rw [KeyMap.find?_insert] at hk'
          split at hk'
          · cases hk'
            exact hearly c hc
          · exact (ht.states _ c hc).early k' tc hk'
        · exact (ht.states K c' hK).early k' tc hk'

/-- The unload written for a column never seen loaded. -/
def unloadRecord : UInt64 × Int64 → TimedRecord
  | (key, time) =>
    ⟨time, .typed (.chunkData (ChunkColumn.unload (Coord.keyX key) (Coord.keyZ key)))⟩

/-- A kept block change, written at its time. -/
def blockRecord : Int64 × BlockChange → TimedRecord
  | (time, change) => ⟨time, .typed (.blockChange change)⟩

/-- A tracked column's records: the column at its first appearance, then its changes. -/
def columnRecords (c : ChunkState) : List TimedRecord :=
  ⟨c.firstAppearance, .typed (.chunkData c.toColumn)⟩ :: c.blockChanges.values.map blockRecord

theorem synthesize_eq (t : ChunkTracker) :
    t.synthesize =
      t.pendingUnloads.entries.map unloadRecord ++ t.chunks.values.flatMap columnRecords :=
  rfl

theorem change_unloadRecord (e : UInt64 × Int64) :
    change (unloadRecord e) =
      { chunks := .column (ChunkColumn.unload (Coord.keyX e.1) (Coord.keyZ e.1)) } :=
  rfl

theorem change_blockRecord (tc : Int64 × BlockChange) :
    change (blockRecord tc) = { chunks := .block tc.1 tc.2 } :=
  rfl

/-- An unload changes nothing while no column is loaded. -/
theorem apply_unloadRecord {v : ReplayView} (hv : v.WF) (hc : v.chunks = {})
    (e : UInt64 × Int64) : v.apply (unloadRecord e) = v := by
  rw [apply_eq_run hv.chunks, change_unloadRecord]
  obtain ⟨entities, chunks, teams, session, inventory, maps⟩ := v
  simp only at hc
  subst hc
  rfl

theorem foldl_apply_unloadRecords {v : ReplayView} (hv : v.WF) (hc : v.chunks = {}) :
    ∀ l : List (UInt64 × Int64), (l.map unloadRecord).foldl ReplayView.apply v = v
  | [] => rfl
  | e :: rest => by
    rw [List.map_cons, List.foldl_cons, apply_unloadRecord hv hc e,
      foldl_apply_unloadRecords hv hc rest]

/-- Block changes that all lie in the column under `K` rewrite that column alone. -/
theorem foldl_apply_blockRecords {K : UInt64} :
    ∀ (tcs : List (Int64 × BlockChange)), (∀ tc ∈ tcs, blockKey tc.2.position = K) →
      ∀ {w : ReplayView}, w.WF →
      (tcs.map blockRecord).foldl ReplayView.apply w =
        { w with chunks := w.chunks.update K fun o => tcs.foldl (fun o tc => blockUpdate tc.1 tc.2 o) o }
  | [], _, w, hw => by
    simp only [List.map_nil, List.foldl_nil]
    rw [KeyMap.update_of_eq hw.chunks.1 rfl]
  | tc :: rest, hkey, w, hw => by
    have hstep : w.apply (blockRecord tc) =
        { w with chunks := w.chunks.update K (blockUpdate tc.1 tc.2) } := by
      rw [apply_eq_run hw.chunks, change_blockRecord, ← hkey tc List.mem_cons_self]
      rfl
    have hw' := hw.apply (blockRecord tc)
    rw [hstep] at hw'
    rw [List.map_cons, List.foldl_cons, hstep,
      foldl_apply_blockRecords rest (fun x hx => hkey x (List.mem_cons_of_mem tc hx)) hw']
    simp only [KeyMap.update_update hw.chunks.1]
    rfl

/-- What replaying a tracked column's records makes of what its key held. -/
def rebuild (c : ChunkState) (o : Option ChunkView) : Option ChunkView :=
  c.blockChanges.values.foldl (fun o tc => blockUpdate tc.1 tc.2 o) (columnUpdate c.toColumn o)

theorem blockKey_of_mem_values {c : ChunkState} {K : UInt64} (hc : c.Held K)
    {tc : Int64 × BlockChange} (h : tc ∈ c.blockChanges.values) : blockKey tc.2.position = K := by
  obtain ⟨k, hk⟩ := hc.mem_values h
  rw [blockKey, (hc.keyed k tc hk).1]
  exact hc.key

theorem foldl_apply_columnRecords {c : ChunkState} {K : UInt64} (hc : c.Held K) {w : ReplayView}
    (hw : w.WF) :
    (columnRecords c).foldl ReplayView.apply w = { w with chunks := w.chunks.update K (rebuild c) } := by
  have hcolumn : w.apply ⟨c.firstAppearance, .typed (.chunkData c.toColumn)⟩ =
      { w with chunks := w.chunks.update K (columnUpdate c.toColumn) } := by
    rw [apply_eq_run hw.chunks, ← hc.key]
    rfl
  have hw' := hw.apply ⟨c.firstAppearance, .typed (.chunkData c.toColumn)⟩
  rw [hcolumn] at hw'
  rw [columnRecords, List.foldl_cons, hcolumn,
    foldl_apply_blockRecords _ (fun tc htc => blockKey_of_mem_values hc htc) hw']
  simp only [KeyMap.update_update hw.chunks.1]
  rfl

theorem isUnload_toColumn {c : ChunkState} (hc : c.Loaded) : c.toColumn.isUnload = false := by
  obtain ⟨i, payload, hi⟩ := hc
  simp only [ChunkColumn.isUnload, ChunkState.toColumn, List.all_eq_false]
  exact ⟨some payload, List.mem_of_getElem? hi, by simp⟩

/-- Sections loaded into empty ones from index `pre.length` on replace them one by one. -/
theorem foldl_loadStep_replicate (biome : Option (List UInt8)) :
    ∀ (l pre : List (Option (List UInt8))),
      (l.zip (List.range' pre.length l.length)).foldl ChunkView.loadStep
          { sections := pre ++ List.replicate l.length none, biome } =
        { sections := pre ++ l, biome }
  | [], pre => by simp
  | s :: rest, pre => by
    have hstep : ChunkView.loadStep { sections := pre ++ List.replicate (rest.length + 1) none, biome }
        (s, pre.length) = { sections := (pre ++ [s]) ++ List.replicate rest.length none, biome } := by
      cases s with
      | none => simp [ChunkView.loadStep, List.replicate_succ]
      | some payload =>
        simp [ChunkView.loadStep, List.replicate_succ, List.set_append_right]
        rfl
    rw [List.length_cons, List.range'_succ, List.zip_cons_cons, List.foldl_cons, hstep]
    have := foldl_loadStep_replicate biome rest (pre ++ [s])
    rw [List.length_append, List.length_singleton] at this
    rw [this, List.append_assoc, List.singleton_append]

/-- A tracked column's record, loaded into an empty column, shows its sections and biome. -/
theorem load_toColumn (c : ChunkState) :
    ChunkView.empty.load c.toColumn = { sections := c.sections, biome := c.biome } := by
  have hfold := foldl_loadStep_replicate none c.sections []
  rw [List.nil_append, List.length_nil, List.nil_append, c.sections_length] at hfold
  rw [ChunkView.load_eq, List.zipIdx_eq_zip_range']
  simp only [ChunkState.toColumn, c.sections_length]
  rw [show ChunkView.empty = { sections := List.replicate 16 none, biome := none } from rfl, hfold]
  cases c.biome <;> rfl

/-- Block changes at heights inside a column write their overrides into it. -/
theorem foldl_blockUpdate_some :
    ∀ (tcs : List (Int64 × BlockChange)), (∀ tc ∈ tcs, (Coord.sectionOf tc.2.position.y).isSome) →
      ∀ cv : ChunkView, tcs.foldl (fun o tc => blockUpdate tc.1 tc.2 o) (some cv) =
        some { cv with
          blocks := tcs.foldl (fun m tc => m.update tc.2.position (newer tc.1 tc.2.block)) cv.blocks }
  | [], _, _ => rfl
  | tc :: rest, hs, cv => by
    obtain ⟨level, hlevel⟩ := Option.isSome_iff_exists.mp (hs tc List.mem_cons_self)
    rw [List.foldl_cons, List.foldl_cons]
    simp only [blockUpdate, hlevel, Option.map_some]
    exact foldl_blockUpdate_some rest (fun x hx => hs x (List.mem_cons_of_mem tc hx)) _

/-- Replaying a tracked column's records where nothing was loaded gives its view. -/
theorem rebuild_none {c : ChunkState} {K : UInt64} (hc : c.Held K) : rebuild c none = some c.view := by
  have hsec : ∀ tc ∈ c.blockChanges.values, (Coord.sectionOf tc.2.position.y).isSome := by
    intro tc htc
    obtain ⟨k, hk⟩ := hc.mem_values htc
    rw [BlockPos.changeKey_div (hc.keyed k tc hk).2]
    rfl
  unfold rebuild
  simp only [columnUpdate, isUnload_toColumn hc.loaded, Bool.false_eq_true, if_false,
    Option.getD_none, load_toColumn c]
  rw [foldl_blockUpdate_some _ hsec]
  rfl

theorem Valid.entries (ht : t.Valid) : ∀ p ∈ t.chunks.entries, p.2.Valid p.1 :=
  fun p hp => ht.states p.1 p.2 (ht.sorted.find?_eq_some_iff.mpr hp)

/-- Every tracked column's records rewrite its key, one column after another. -/
theorem foldl_apply_columns :
    ∀ (entries : List (UInt64 × ChunkState)), (∀ p ∈ entries, p.2.Held p.1) →
      ∀ {w : ReplayView}, w.WF →
      (entries.map (·.2)).foldl (fun acc c => (columnRecords c).foldl ReplayView.apply acc) w =
        { w with chunks := entries.foldl (fun m p => m.update p.1 (rebuild p.2)) w.chunks }
  | [], _, _, _ => rfl
  | p :: rest, hvalid, w, hw => by
    have hp := hvalid p List.mem_cons_self
    have hw' := hw.foldl (columnRecords p.2)
    rw [foldl_apply_columnRecords hp hw] at hw'
    rw [List.map_cons, List.foldl_cons, foldl_apply_columnRecords hp hw,
      foldl_apply_columns rest (fun q hq => hvalid q (List.mem_cons_of_mem p hq)) hw']
    rfl

/-- Replaying what a tracker synthesizes, from a view with no loaded column, loads exactly the
tracker's columns. -/
theorem Tracks.foldl_apply_synthesize (ht : t.Tracks) {v : ReplayView} (hv : v.WF)
    (hc : v.chunks = {}) : t.synthesize.foldl ReplayView.apply v = { v with chunks := t.view } := by
  have hheld : ∀ p ∈ t.chunks.entries, p.2.Held p.1 :=
    fun p hp => ht.states p.1 p.2 (ht.sorted.find?_eq_some_iff.mpr hp)
  rw [synthesize_eq, List.foldl_append, foldl_apply_unloadRecords hv hc, List.foldl_flatMap]
  unfold KeyMap.values
  rw [foldl_apply_columns _ hheld hv, hc, KeyMap.foldl_update_entries_empty ht.sorted]
  unfold view
  rw [KeyMap.filterMapValues_congr ht.sorted fun K c hK => rebuild_none (ht.states K c hK)]

theorem foldl_apply_synthesize (ht : t.Valid) {v : ReplayView} (hv : v.WF)
    (hc : v.chunks = {}) : t.synthesize.foldl ReplayView.apply v = { v with chunks := t.view } :=
  ht.tracks.foldl_apply_synthesize hv hc

/-- A record that changes the column under `K` alone. -/
def ChunkAt (K : UInt64) (r : TimedRecord) : Prop :=
  (∃ col, change r = { chunks := .column col } ∧ Coord.chunkKey col.x col.z = K) ∨
    ∃ time block, change r = { chunks := .block time block } ∧ blockKey block.position = K

/-- Records of two different columns commute. -/
theorem commute_of_chunkAt {K K' : UInt64} (hne : K ≠ K') {a b : TimedRecord} (ha : ChunkAt K a)
    (hb : ChunkAt K' b) : Commute a b := by
  apply commute_of_disjoint
  rcases ha with ⟨col, ha, hka⟩ | ⟨time, block, ha, hka⟩ <;>
    rcases hb with ⟨col', hb, hkb⟩ | ⟨time', block', hb, hkb⟩ <;>
    rw [ha, hb] <;> refine ⟨trivial, ?_, .inl rfl, .inl rfl, trivial, .inl rfl⟩ <;>
    simp only [ChunkChange.Disjoint] <;> rw [hka, hkb]
  · exact hne
  · exact hne
  · exact Ne.symm hne
  · exact .inl hne

theorem chunkAt_unloadRecord (e : UInt64 × Int64) : ChunkAt e.1 (unloadRecord e) :=
  .inl ⟨_, change_unloadRecord e, Coord.chunkKey_keyX_keyZ e.1⟩

theorem chunkAt_of_mem_columnRecords {c : ChunkState} {K : UInt64} (hc : c.Valid K)
    {r : TimedRecord} (hr : r ∈ columnRecords c) : ChunkAt K r := by
  rcases List.mem_cons.mp hr with rfl | hr
  · exact .inl ⟨c.toColumn, rfl, hc.key⟩
  · obtain ⟨tc, htc, rfl⟩ := List.mem_map.mp hr
    exact .inr ⟨tc.1, tc.2, change_blockRecord tc, blockKey_of_mem_values hc.held htc⟩

/-- A column's records: the column no later than its changes, which lie at distinct
positions. -/
theorem pairwise_columnRecords {c : ChunkState} {K : UInt64} (hc : c.Valid K) :
    (columnRecords c).Pairwise Reorderable := by
  rw [columnRecords, List.pairwise_cons]
  refine ⟨fun b hb => ?_, ?_⟩
  · obtain ⟨⟨time, block⟩, htc, rfl⟩ := List.mem_map.mp hb
    obtain ⟨k, hk⟩ := hc.mem_values htc
    exact (InOrder.of_le (hc.early k _ hk)).reorderable
  · rw [List.pairwise_map]
    refine hc.pairwise_position.imp fun {a b} hne => Commute.reorderable (commute_of_disjoint ?_)
    rw [change_blockRecord, change_blockRecord]
    exact ⟨trivial, .inr hne, .inl rfl, .inl rfl, trivial, .inl rfl⟩

theorem key_ne_of_find? {m : KeyMap UInt64 ChunkState} {K K' : UInt64} {c : ChunkState}
    (hK : m.find? K = some c) (hK' : m.find? K' = none) : K' ≠ K := by
  rintro rfl
  rw [hK] at hK'
  cases hK'

theorem ne_of_lt_key {K K' : UInt64} (h : compare K K' = .lt) : K ≠ K' := by
  rintro rfl
  rw [Std.ReflOrd.compare_self] at h
  cases h

/-- Records of different columns commute, and each column's own are in order. -/
theorem pairwise_synthesize (ht : t.Valid) : t.synthesize.Pairwise Reorderable := by
  rw [synthesize_eq, List.pairwise_append, List.pairwise_flatMap]
  refine ⟨?_, ⟨fun c hc => ?_, ?_⟩, ?_⟩
  · rw [List.pairwise_map]
    exact ht.unloadsSorted.imp fun hlt =>
      (commute_of_chunkAt (ne_of_lt_key hlt) (chunkAt_unloadRecord _)
        (chunkAt_unloadRecord _)).reorderable
  · obtain ⟨p, hp, rfl⟩ := List.mem_map.mp hc
    exact pairwise_columnRecords (ht.entries p hp)
  · unfold KeyMap.values
    rw [List.pairwise_map]
    refine ht.sorted.imp_of_mem fun {p q} hp hq hlt x hx y hy => ?_
    exact (commute_of_chunkAt (ne_of_lt_key hlt)
      (chunkAt_of_mem_columnRecords (ht.entries p hp) hx)
      (chunkAt_of_mem_columnRecords (ht.entries q hq) hy)).reorderable
  · intro x hx y hy
    obtain ⟨e, he, rfl⟩ := List.mem_map.mp hx
    obtain ⟨c, hc, hy⟩ := List.mem_flatMap.mp hy
    obtain ⟨p, hp, rfl⟩ := List.mem_map.mp hc
    have hfind := ht.sorted.find?_eq_some_iff.mpr hp
    have hnone := ht.apart e.1 e.2 (ht.unloadsSorted.find?_eq_some_iff.mpr he)
    exact (commute_of_chunkAt (key_ne_of_find? hfind hnone) (chunkAt_unloadRecord e)
      (chunkAt_of_mem_columnRecords (ht.entries p hp) hy)).reorderable

/-- Every synthesized record changes one column, no earlier than a bound that every pending
unload and every tracked column's first appearance respects. -/
theorem chunkAt_of_mem_synthesize (ht : t.Valid) {T : Int64}
    (hu : ∀ K u, t.pendingUnloads.find? K = some u → T ≤ u)
    (hc : ∀ K c, t.chunks.find? K = some c → T ≤ c.firstAppearance)
    {r : TimedRecord} (hr : r ∈ t.synthesize) : (∃ K, ChunkAt K r) ∧ T ≤ r.time := by
  rw [synthesize_eq] at hr
  rcases List.mem_append.mp hr with hr | hr
  · obtain ⟨e, he, rfl⟩ := List.mem_map.mp hr
    exact ⟨⟨e.1, chunkAt_unloadRecord e⟩, hu e.1 e.2 (ht.unloadsSorted.find?_eq_some_iff.mpr he)⟩
  · obtain ⟨c, hcmem, hr⟩ := List.mem_flatMap.mp hr
    obtain ⟨p, hp, rfl⟩ := List.mem_map.mp hcmem
    have hv := ht.entries p hp
    have hT := hc p.1 p.2 (ht.sorted.find?_eq_some_iff.mpr hp)
    refine ⟨⟨p.1, chunkAt_of_mem_columnRecords hv hr⟩, ?_⟩
    rcases List.mem_cons.mp hr with rfl | hr
    · exact hT
    · obtain ⟨⟨time, block⟩, htc, rfl⟩ := List.mem_map.mp hr
      obtain ⟨k, hk⟩ := hv.mem_values htc
      exact Int64.le_trans hT (hv.early k _ hk)

/-- Nothing the tracker replays is older than `T`: no pending unload, and no column's first
appearance, so none of its changes. -/
structure Since (T : Int64) (t : ChunkTracker) : Prop where
  unloads : ∀ K u, t.pendingUnloads.find? K = some u → T ≤ u
  columns : ∀ K c, t.chunks.find? K = some c → T ≤ c.firstAppearance

/-- No tracked column first appeared after `τ`. -/
def Until (τ : Int64) (t : ChunkTracker) : Prop :=
  ∀ K c, t.chunks.find? K = some c → c.firstAppearance ≤ τ

theorem Until.mono {τ τ' : Int64} (hu : t.Until τ) (hτ : τ ≤ τ') : t.Until τ' :=
  fun K c h => Int64.le_trans (hu K c h) hτ

/-- Each pending unload and each first appearance a column record leaves is one from before
or the record's own time. -/
theorem onColumn_times (t : ChunkTracker) (time : Int64) (column : ChunkColumn) :
    (∀ K u, (t.onColumn time column).pendingUnloads.find? K = some u →
      t.pendingUnloads.find? K = some u ∨ u = time) ∧
    ∀ K c, (t.onColumn time column).chunks.find? K = some c →
      (∃ c₀, t.chunks.find? K = some c₀ ∧ c.firstAppearance = c₀.firstAppearance) ∨
        c.firstAppearance = time := by
  unfold ChunkTracker.onColumn
  dsimp only
  split
  · split
    · refine ⟨fun K u h => .inl h, fun K c h => ?_⟩
      rw [KeyMap.find?_erase] at h
      split at h
      · cases h
      · exact .inl ⟨c, h, rfl⟩
    · refine ⟨fun K u h => ?_, fun K c h => .inl ⟨c, h, rfl⟩⟩
      rw [KeyMap.find?_insert] at h
      split at h
      · cases h
        exact .inr rfl
      · exact .inl h
  · refine ⟨fun K u h => ?_, fun K c h => ?_⟩
    · rw [KeyMap.find?_erase] at h
      split at h
      · cases h
      · exact .inl h
    · rw [KeyMap.find?_alter] at h
      split at h
      · next hkey =>
        cases h
        subst hkey
        cases hc : t.chunks.find? (Coord.chunkKey column.x column.z) with
        | none => exact .inr (shrinks_apply _ column).firstAppearance
        | some c₀ => exact .inl ⟨c₀, rfl, (shrinks_apply c₀ column).firstAppearance⟩
      · exact .inl ⟨c, h, rfl⟩

/-- A block change keeps the pending unloads and every column's first appearance. -/
theorem onBlock_times (t : ChunkTracker) (time : Int64) (change : BlockChange) :
    (t.onBlock time change).1.pendingUnloads = t.pendingUnloads ∧
    ∀ K c, (t.onBlock time change).1.chunks.find? K = some c →
      ∃ c₀, t.chunks.find? K = some c₀ ∧ c.firstAppearance = c₀.firstAppearance := by
  rw [onBlock_fst]
  split
  · next c k hc hk =>
    split
    · exact ⟨rfl, fun K c h => ⟨c, h, rfl⟩⟩
    · refine ⟨rfl, fun K c' h => ?_⟩
      rw [KeyMap.find?_insert] at h
      split at h
      · next hkey =>
        cases h
        rw [← hkey]
        exact ⟨c, hc, rfl⟩
      · exact ⟨c', h, rfl⟩
  · exact ⟨rfl, fun K c h => ⟨c, h, rfl⟩⟩

variable {T τ : Int64}

theorem Since.onColumn (hs : t.Since T) {time : Int64} (hT : T ≤ time) (column : ChunkColumn) :
    (t.onColumn time column).Since T := by
  obtain ⟨hu, hc⟩ := onColumn_times t time column
  refine ⟨fun K u h => ?_, fun K c h => ?_⟩
  · rcases hu K u h with h | rfl
    · exact hs.unloads K u h
    · exact hT
  · rcases hc K c h with ⟨c₀, h₀, he⟩ | he
    · rw [he]
      exact hs.columns K c₀ h₀
    · rw [he]
      exact hT

theorem Until.onColumn (hu : t.Until τ) {time : Int64} (hτ : τ ≤ time) (column : ChunkColumn) :
    (t.onColumn time column).Until time := by
  intro K c h
  rcases (onColumn_times t time column).2 K c h with ⟨c₀, h₀, he⟩ | he
  · rw [he]
    exact Int64.le_trans (hu K c₀ h₀) hτ
  · rw [he]
    exact Int64.le_refl _

theorem Since.onBlock (hs : t.Since T) (time : Int64) (change : BlockChange) :
    (t.onBlock time change).1.Since T := by
  obtain ⟨hu, hc⟩ := onBlock_times t time change
  refine ⟨fun K u h => hs.unloads K u (hu ▸ h), fun K c h => ?_⟩
  obtain ⟨c₀, h₀, he⟩ := hc K c h
  rw [he]
  exact hs.columns K c₀ h₀

theorem Until.onBlock (hu : t.Until τ) (time : Int64) (change : BlockChange) :
    (t.onBlock time change).1.Until τ := by
  intro K c h
  obtain ⟨c₀, h₀, he⟩ := (onBlock_times t time change).2 K c h
  rw [he]
  exact hu K c₀ h₀

end ChunkTracker

/-- A column of the chunk at `(x, z)` with only its lowest section sent. -/
def ChunkColumn.lowest (x z : Int32) : ChunkColumn :=
  ⟨x, z, some [1] :: List.replicate 15 none, rfl, none⟩

end SessionSquash
