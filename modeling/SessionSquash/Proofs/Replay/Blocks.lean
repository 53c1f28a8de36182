import SessionSquash.Proofs.Replay.Commute
import Mathlib.Data.List.Induction

namespace SessionSquash

set_option autoImplicit false

open ReplayView

/-- What strictly newer writes leave of timed values, taken in order. -/
def latest (ws : List (Int64 × UInt32)) : Option (Int64 × UInt32) :=
  ws.foldl (fun o w => newer w.1 w.2 o) none

/-- `w` is the first element of `ws` with the greatest time. -/
def FirstLatest (ws : List (Int64 × UInt32)) (w : Int64 × UInt32) : Prop :=
  ∃ pre post, ws = pre ++ w :: post ∧ (∀ x ∈ pre, x.1 < w.1) ∧ ∀ x ∈ post, x.1 ≤ w.1

theorem latest_append_singleton (ws : List (Int64 × UInt32)) (x : Int64 × UInt32) :
    latest (ws ++ [x]) = newer x.1 x.2 (latest ws) := by
  rw [latest, List.foldl_append]
  rfl

theorem latest_eq_none_iff {ws : List (Int64 × UInt32)} : latest ws = none ↔ ws = [] := by
  induction ws using List.reverseRecOn with
  | nil => exact ⟨fun _ => rfl, fun _ => rfl⟩
  | append_singleton ws x _ =>
    rw [latest_append_singleton]
    refine ⟨fun h => ?_, fun h => absurd h (List.concat_ne_nil x ws)⟩
    cases hl : latest ws with
    | none => rw [hl] at h; cases h
    | some u =>
      rw [hl] at h
      simp only [newer] at h
      split at h <;> cases h

namespace FirstLatest

variable {ws : List (Int64 × UInt32)} {w : Int64 × UInt32}

theorem mem (h : FirstLatest ws w) : w ∈ ws := by
  obtain ⟨pre, post, rfl, -, -⟩ := h
  exact List.mem_append_right pre List.mem_cons_self

theorem le (h : FirstLatest ws w) : ∀ y ∈ ws, y.1 ≤ w.1 := by
  obtain ⟨pre, post, rfl, hpre, hpost⟩ := h
  intro y hy
  rcases List.mem_append.mp hy with hy | hy
  · exact Int64.le_of_lt (hpre y hy)
  · rcases List.mem_cons.mp hy with rfl | hy
    · exact Int64.le_refl _
    · exact hpost y hy

theorem not_nil (w : Int64 × UInt32) : ¬ FirstLatest [] w := fun h => by
  obtain ⟨pre, post, h, -, -⟩ := h
  exact absurd h.symm (by simp)

/-- Two elements that are both the first of the latest are one. -/
theorem unique {w' : Int64 × UInt32} (h : FirstLatest ws w) (h' : FirstLatest ws w') : w = w' := by
  have hle := h.le w' h'.mem
  have hle' := h'.le w h.mem
  obtain ⟨pre, post, rfl, hpre, -⟩ := h
  obtain ⟨pre', post', heq, hpre', -⟩ := h'
  have hat : ∀ (a b : List (Int64 × UInt32)) (x : Int64 × UInt32), (a ++ x :: b)[a.length]? = some x :=
    fun a b x => by simp
  rcases Nat.lt_trichotomy pre.length pre'.length with hlt | heql | hgt
  · have hw : pre'[pre.length]? = some w := by
      rw [← hat pre post w, heq, List.getElem?_append_left hlt]
    exact absurd (hpre' w (List.mem_of_getElem? hw)) (Int64.not_lt.mpr hle)
  · have h₁ := hat pre post w
    rw [heq, heql, hat] at h₁
    exact (Option.some.inj h₁).symm
  · have hw : pre[pre'.length]? = some w' := by
      rw [← hat pre' post' w', ← heq, List.getElem?_append_left hgt]
    exact absurd (hpre w' (List.mem_of_getElem? hw)) (Int64.not_lt.mpr hle')

end FirstLatest

/-- A value put after `ws` is the first of the latest when it is later than all of `ws`;
otherwise the first of the latest of `ws` stays, if it is no earlier. -/
theorem firstLatest_append_singleton {ws : List (Int64 × UInt32)} {x w : Int64 × UInt32} :
    FirstLatest (ws ++ [x]) w ↔ (FirstLatest ws w ∧ x.1 ≤ w.1) ∨ (w = x ∧ ∀ y ∈ ws, y.1 < x.1) := by
  constructor
  · rintro ⟨pre, post, heq, hpre, hpost⟩
    rcases List.eq_nil_or_concat post with rfl | ⟨post', z, rfl⟩
    · obtain ⟨rfl, hx⟩ := List.append_inj' heq rfl
      simp only [List.cons.injEq, and_true] at hx
      exact .inr ⟨hx.symm, hx ▸ hpre⟩
    · rw [List.concat_eq_append] at heq hpost
      rw [← List.cons_append, ← List.append_assoc] at heq
      obtain ⟨rfl, hx⟩ := List.append_inj' heq rfl
      simp only [List.cons.injEq, and_true] at hx
      subst hx
      refine .inl ⟨⟨pre, post', rfl, hpre, fun y hy => hpost y (List.mem_append_left _ hy)⟩, ?_⟩
      exact hpost x (List.mem_append_right _ List.mem_cons_self)
  · rintro (⟨⟨pre, post, rfl, hpre, hpost⟩, hx⟩ | ⟨rfl, hx⟩)
    · refine ⟨pre, post ++ [x], by simp, hpre, fun y hy => ?_⟩
      rcases List.mem_append.mp hy with hy | hy
      · exact hpost y hy
      · rw [List.mem_singleton.mp hy]
        exact hx
    · exact ⟨ws, [], rfl, hx, fun _ h => absurd h List.not_mem_nil⟩

/-- Strictly newer writes leave the first of the latest. -/
theorem latest_eq_some_iff {ws : List (Int64 × UInt32)} {w : Int64 × UInt32} :
    latest ws = some w ↔ FirstLatest ws w := by
  induction ws using List.reverseRecOn generalizing w with
  | nil => exact ⟨fun h => (by simp [latest] at h), fun h => absurd h (FirstLatest.not_nil w)⟩
  | append_singleton ws x ih =>
    rw [latest_append_singleton, firstLatest_append_singleton]
    cases hl : latest ws with
    | none =>
      have hws : ws = [] := latest_eq_none_iff.mp hl
      subst hws
      simp only [newer, Option.some.injEq, List.not_mem_nil, false_imp_iff, implies_true,
        and_true]
      exact ⟨fun h => .inr h.symm, fun h => h.elim (fun h => absurd h.1 (FirstLatest.not_nil w))
        Eq.symm⟩
    | some u =>
      have hu : FirstLatest ws u := ih.mp hl
      have huniq : ∀ w', FirstLatest ws w' ↔ u = w' := fun w' =>
        ⟨hu.unique, fun h => h ▸ hu⟩
      simp only [newer]
      by_cases hx : x.1 ≤ u.1
      · rw [if_pos hx, Option.some.injEq, huniq]
        refine ⟨fun h => .inl ⟨h, h ▸ hx⟩, ?_⟩
        rintro (⟨h, -⟩ | ⟨-, hlt⟩)
        · exact h
        · exact absurd (hlt u hu.mem) (Int64.not_lt.mpr hx)
      · rw [if_neg hx, Option.some.injEq, huniq]
        have hlt : u.1 < x.1 := Int64.not_le.mp hx
        refine ⟨fun h => .inr ⟨h.symm, fun y hy => Int64.lt_of_le_of_lt (hu.le y hy) hlt⟩, ?_⟩
        rintro (⟨rfl, hle⟩ | ⟨h, -⟩)
        · exact absurd hle hx
        · exact h.symm

/-- Among writes at distinct times the first of the latest is the one with the greatest time,
wherever it stands. -/
theorem firstLatest_iff_of_nodup {ws : List (Int64 × UInt32)} (h : (ws.map Prod.fst).Nodup)
    {w : Int64 × UInt32} : FirstLatest ws w ↔ w ∈ ws ∧ ∀ y ∈ ws, y.1 ≤ w.1 := by
  refine ⟨fun hw => ⟨hw.mem, hw.le⟩, fun ⟨hw, hle⟩ => ?_⟩
  obtain ⟨pre, post, rfl⟩ := List.mem_iff_append.mp hw
  refine ⟨pre, post, rfl, fun x hx => ?_, fun x hx => hle x (by simp [hx])⟩
  have hne : x.1 ≠ w.1 := by
    rw [List.map_append, List.nodup_append] at h
    exact h.2.2 x.1 (List.mem_map_of_mem hx) w.1 (by simp)
  exact Int64.lt_of_le_of_ne (hle x (by simp [hx])) hne

/-- Of writes at distinct times, the one a position shows does not depend on their order. -/
theorem latest_eq_of_perm {ws ws' : List (Int64 × UInt32)} (hp : ws.Perm ws')
    (h : (ws.map Prod.fst).Nodup) : latest ws = latest ws' := by
  have h' : (ws'.map Prod.fst).Nodup := (hp.map Prod.fst).nodup_iff.mp h
  cases hl : latest ws with
  | none =>
    rw [latest_eq_none_iff] at hl
    subst hl
    obtain rfl := List.nil_perm.mp hp
    rfl
  | some w =>
    have hw := (firstLatest_iff_of_nodup h).mp (latest_eq_some_iff.mp hl)
    symm
    rw [latest_eq_some_iff, firstLatest_iff_of_nodup h']
    exact ⟨hp.mem_iff.mp hw.1, fun y hy => hw.2 y (hp.mem_iff.mpr hy)⟩

/-- A column record sends the section holding height `y`. -/
def ChunkColumn.sends (c : ChunkColumn) (y : Int32) : Bool :=
  c.sections.zipIdx.any fun e => e.1.isSome && Coord.sectionOf y == some e.2

namespace BlockPos

/-- What a column record leaves of the writes at `pos` a viewer keeps account of: an unload of
the column holding `pos` forgets them, and loading that column or sending the section of `pos`
starts them anew. -/
def columnWrites (pos : BlockPos) (ws : Option (List (Int64 × UInt32))) (c : ChunkColumn) :
    Option (List (Int64 × UInt32)) :=
  if Coord.chunkKey c.x c.z = blockKey pos then
    if c.isUnload then none
    else if ws.isNone || c.sends pos.y then some []
    else ws
  else ws

/-- A write at `pos` counts while its column is loaded and its height lies inside the column. -/
def blockWrites (pos : BlockPos) (time : Int64) (ws : Option (List (Int64 × UInt32)))
    (change : BlockChange) : Option (List (Int64 × UInt32)) :=
  if change.position = pos ∧ (Coord.sectionOf pos.y).isSome then
    ws.map (· ++ [(time, change.block)])
  else ws

/-- What one record leaves of the writes at `pos`; a respawn unloads every column. -/
def recordWrites (pos : BlockPos) (ws : Option (List (Int64 × UInt32))) (r : TimedRecord) :
    Option (List (Int64 × UInt32)) :=
  match r.record with
  | .typed (.respawn _) => none
  | .typed (.chunkData c) => pos.columnWrites ws c
  | .typed (.multiChunkData d) => d.columns.foldl pos.columnWrites ws
  | .typed (.blockChange change) => pos.blockWrites r.time ws change
  | .typed (.multiBlockChange d) => d.records.foldl (pos.blockWrites r.time) ws
  | _ => ws

/-- The writes at `pos` a viewer keeps account of after `records`, in order: none while the
column holding `pos` is not loaded, and otherwise those made since it was loaded or a column
record last sent the section of `pos`. -/
def writes (pos : BlockPos) (records : List TimedRecord) : Option (List (Int64 × UInt32)) :=
  records.foldl pos.recordWrites none

end BlockPos

/-- The override a view shows at a world position, with its write time. -/
def ReplayView.blockAt (v : ReplayView) (pos : BlockPos) : Option (Int64 × UInt32) :=
  (v.chunks.find? (blockKey pos)).bind fun cv => cv.blocks.find? pos

namespace ChunkView

/-- Sections taken in drop the override at a position when one of them holds it. -/
theorem find?_foldl_loadStep (pos : BlockPos) :
    ∀ (l : List (Option (List UInt8) × Nat)) (cv : ChunkView),
      (l.foldl loadStep cv).blocks.find? pos =
        if l.any (fun e => e.1.isSome && Coord.sectionOf pos.y == some e.2) then none
        else cv.blocks.find? pos
  | [], _ => rfl
  | (s, i) :: rest, cv => by
    rw [List.foldl_cons, find?_foldl_loadStep pos rest, List.any_cons]
    cases s with
    | none => simp only [loadStep, Option.isSome_none, Bool.false_and, Bool.false_or]
    | some payload =>
      simp only [loadStep, KeyMap.find?_filter, Option.isSome_some, Bool.true_and]
      by_cases hs : Coord.sectionOf pos.y = some i
      · simp [hs]
      · have hne : (Coord.sectionOf pos.y == some i) = false := beq_eq_false_iff_ne.mpr hs
        rw [hne, Bool.false_or]
        simp [hs]

theorem find?_load (cv : ChunkView) (c : ChunkColumn) (pos : BlockPos) :
    (cv.load c).blocks.find? pos = if c.sends pos.y then none else cv.blocks.find? pos := by
  rw [load_eq]
  dsimp only
  have h := find?_foldl_loadStep pos c.sections.zipIdx cv
  split <;> exact h

end ChunkView

namespace BlockPos

/-- A column map shows at `pos` the latest of the writes `ws` kept account of there, and has the
column holding `pos` loaded exactly when they are kept. -/
def Shows (m : KeyMap UInt64 ChunkView) (pos : BlockPos) (ws : Option (List (Int64 × UInt32))) :
    Prop :=
  (m.find? (blockKey pos)).map (fun cv => cv.blocks.find? pos) = ws.map latest

variable {pos : BlockPos} {m : KeyMap UInt64 ChunkView} {ws : Option (List (Int64 × UInt32))}

theorem shows_empty (pos : BlockPos) : Shows {} pos none := rfl

theorem Shows.column (h : Shows m pos ws) (c : ChunkColumn) :
    Shows (m.update (Coord.chunkKey c.x c.z) (columnUpdate c)) pos (pos.columnWrites ws c) := by
  unfold Shows at h ⊢
  unfold columnWrites
  rw [KeyMap.find?_update]
  by_cases hk : Coord.chunkKey c.x c.z = blockKey pos
  · rw [if_pos hk, if_pos hk, hk]
    unfold columnUpdate
    by_cases hu : c.isUnload
    · simp [hu]
    · rw [if_neg hu, if_neg hu, Option.map_some, ChunkView.find?_load]
      cases hf : m.find? (blockKey pos) with
      | none =>
        rw [hf, Option.map_none] at h
        have hws : ws = none := Option.map_eq_none_iff.mp h.symm
        subst hws
        simp only [Option.getD_none, Option.isNone_none, Bool.true_or, if_true, Option.map_some]
        split <;> rfl
      | some cv =>
        rw [hf, Option.map_some] at h
        obtain ⟨w, rfl, hw⟩ := Option.map_eq_some_iff.mp h.symm
        simp only [Option.getD_some, Option.isNone_some, Bool.false_or]
        by_cases hs : c.sends pos.y
        · simp [hs, latest]
        · simp [hs, hw]
  · rw [if_neg hk, if_neg hk]
    exact h

theorem Shows.block (h : Shows m pos ws) (time : Int64) (change : BlockChange) :
    Shows (m.update (blockKey change.position) (blockUpdate time change)) pos
      (pos.blockWrites time ws change) := by
  unfold Shows at h ⊢
  unfold blockWrites
  rw [KeyMap.find?_update]
  by_cases hp : change.position = pos
  · subst hp
    rw [if_pos rfl]
    unfold blockUpdate
    cases hs : Coord.sectionOf change.position.y with
    | none => simpa [hs] using h
    | some level =>
      rw [if_pos ⟨rfl, rfl⟩]
      dsimp only
      cases hf : m.find? (blockKey change.position) with
      | none =>
        rw [hf, Option.map_none] at h
        rw [Option.map_eq_none_iff.mp h.symm]
        rfl
      | some cv =>
        rw [hf, Option.map_some] at h
        obtain ⟨w, rfl, hw⟩ := Option.map_eq_some_iff.mp h.symm
        simp only [Option.map_some, ChunkView.setBlock, KeyMap.find?_update, if_true, hw,
          latest_append_singleton]
  · have hkeep : ∀ o : Option ChunkView, (blockUpdate time change o).map
        (fun cv => cv.blocks.find? pos) = o.map (fun cv => cv.blocks.find? pos) := by
      intro o
      unfold blockUpdate
      split
      · cases o with
        | none => rfl
        | some cv => simp [ChunkView.setBlock, KeyMap.find?_update, hp]
      · rfl
    rw [if_neg (show ¬(change.position = pos ∧ _) from fun h => hp h.1)]
    split
    · next hk => rw [hk, hkeep]; exact h
    · exact h

theorem Shows.columns (h : Shows m pos ws) :
    ∀ cs : List ChunkColumn, Shows ((ChunkChange.columns cs).run m) pos (cs.foldl pos.columnWrites ws) := by
  intro cs
  induction cs generalizing m ws with
  | nil => exact h
  | cons c rest ih => exact ih (h.column c)

theorem Shows.blocks (h : Shows m pos ws) (time : Int64) :
    ∀ changes : List BlockChange,
      Shows ((ChunkChange.blocks time changes).run m) pos (changes.foldl (pos.blockWrites time) ws) := by
  intro changes
  induction changes generalizing m ws with
  | nil => exact h
  | cons change rest ih => exact ih (h.block time change)

/-- A record's change to the columns moves what they show at `pos` as the record moves the
writes kept account of there. -/
theorem Shows.change (h : Shows m pos ws) (r : TimedRecord) :
    Shows ((change r).chunks.run m) pos (pos.recordWrites ws r) := by
  obtain ⟨time, rec⟩ := r
  cases rec with
  | raw => exact h
  | typed p =>
    cases p
    case respawn => exact shows_empty pos
    case chunkData c => exact h.column c
    case multiChunkData d => exact h.columns d.columns
    case blockChange c => exact h.block time c
    case multiBlockChange d => exact h.blocks time d.records
    case notify n => cases n <;> exact h
    case windowItems d => simp only [ReplayView.change, payloadChange]; split <;> exact h
    case setSlot d => simp only [ReplayView.change, payloadChange]; split <;> exact h
    all_goals exact h

theorem Shows.foldl_apply (records : List TimedRecord) {v : ReplayView} (hv : v.WF)
    (h : Shows v.chunks pos ws) :
    Shows (records.foldl ReplayView.apply v).chunks pos (records.foldl pos.recordWrites ws) := by
  induction records generalizing v ws with
  | nil => exact h
  | cons r rest ih =>
    have hstep : Shows (v.apply r).chunks pos (pos.recordWrites ws r) := by
      rw [apply_eq_run hv.chunks]
      exact h.change r
    exact ih (hv.apply r) hstep

end BlockPos

/-- Replaying records shows at each position the first of the latest writes kept account of
there: those made while its column was loaded, since the column was loaded or last sent the
section of the position. -/
theorem blockAt_replay_eq_some_iff (records : List TimedRecord) (pos : BlockPos)
    (w : Int64 × UInt32) :
    (replay records).blockAt pos = some w ↔
      ∃ ws, pos.writes records = some ws ∧ FirstLatest ws w := by
  have h := BlockPos.Shows.foldl_apply records wf_empty (BlockPos.shows_empty pos)
  unfold BlockPos.Shows at h
  rw [ReplayView.blockAt, replay, BlockPos.writes]
  cases hf : ((records.foldl ReplayView.apply {}).chunks.find? (blockKey pos)) with
  | none =>
    rw [hf, Option.map_none] at h
    rw [Option.map_eq_none_iff.mp h.symm]
    simp
  | some cv =>
    rw [hf, Option.map_some] at h
    obtain ⟨ws, hws, hw⟩ := Option.map_eq_some_iff.mp h.symm
    rw [hws, Option.bind_some, ← hw, latest_eq_some_iff]
    simp

end SessionSquash
