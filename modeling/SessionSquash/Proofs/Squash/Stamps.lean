import SessionSquash.Proofs.Squash.Finish

namespace SessionSquash

set_option autoImplicit false

open ReplayView

/-- A record the squasher may keep as it arrived: undecoded, or of a domain whose records no
tracker rebuilds (neither a chunk record nor a team record). -/
def TimedRecord.Verbatim (r : TimedRecord) : Prop :=
  ∀ p, r.record = .typed p → p.kind.domain ≠ .chunk ∧ p.kind.domain ≠ .team

/-- A record kept as it arrived, at a time in `P`. -/
def TimedRecord.Kept (P : Int64 → Prop) (r : TimedRecord) : Prop := P r.time ∧ r.Verbatim

/-- What holds of each record `finish` sorts: its time is in `P` and it changes no team. -/
def TimedRecord.Written (P : Int64 → Prop) (r : TimedRecord) : Prop :=
  P r.time ∧ (change r).teams = none

namespace TimedRecord

variable {P : Int64 → Prop} {r : TimedRecord}

theorem verbatim_raw (time : Int64) (kind : RecordKind) (data : Json) :
    Verbatim ⟨time, .raw kind data⟩ :=
  fun _ h => by cases h

theorem verbatim_typed (time : Int64) {p : Payload} (hc : p.kind.domain ≠ .chunk)
    (ht : p.kind.domain ≠ .team) : Verbatim ⟨time, .typed p⟩ := by
  rintro q ⟨⟩
  exact ⟨hc, ht⟩

/-- Only a team record changes the teams. -/
theorem Verbatim.written (h : r.Verbatim) (hp : P r.time) : r.Written P := by
  obtain ⟨time, rec⟩ := r
  refine ⟨hp, ?_⟩
  cases rec with
  | raw => rfl
  | typed p =>
    obtain ⟨hc, ht⟩ := h p rfl
    cases p <;> first
      | rfl
      | (rename_i n; cases n <;> rfl)
      | (simp only [change, payloadChange]; split <;> rfl)
      | exact absurd rfl hc
      | exact absurd rfl ht

theorem Kept.written (h : r.Kept P) : r.Written P := h.2.written h.1

end TimedRecord

open TimedRecord

namespace EntityState

/-- Every record a state replays has its time in `P`, and those it queued were kept as they
arrived. -/
def Stamped (P : Int64 → Prop) (st : EntityState) : Prop :=
  (∀ r ∈ ownRecords st.queue, r.Kept P) ∧ ∀ e, ∀ r ∈ st.motionRecords e, P r.time

variable {P : Int64 → Prop} {st : EntityState}

theorem stamped_empty (P : Int64 → Prop) : ({} : EntityState).Stamped P :=
  ⟨fun _ h => by simp [ownRecords] at h, fun e _ h => by simp [motionRecords_empty] at h⟩

/-- A handler that queues `r` stamps the state with the time of `r`. -/
theorem Stamped.push (h : st.Stamped P) {st' : EntityState} {r : TimedRecord}
    (hq : ownRecords st'.queue = ownRecords st.queue ++ [r]) (ht : st'.lastTimestamp = r.time)
    (hr : r.Kept P) : st'.Stamped P := by
  refine ⟨fun x hx => ?_, fun e x hx => ?_⟩
  · rw [hq, List.mem_append, List.mem_singleton] at hx
    rcases hx with hx | rfl
    · exact h.1 x hx
    · exact hr
  · rw [time_of_mem_motionRecords hx, ht]
    exact hr.1

theorem Stamped.move (h : st.Stamped P) {st' : EntityState} {time : Int64}
    (hq : st'.queue = st.queue) (ht : st'.lastTimestamp = time) (htime : P time) :
    st'.Stamped P := by
  refine ⟨fun x hx => ?_, fun e x hx => ?_⟩
  · rw [hq] at hx
    exact h.1 x hx
  · rw [time_of_mem_motionRecords hx, ht]
    exact htime

theorem Stamped.shareStep (h : st.Stamped P) (slot : Nat) : (shareStep slot st).Stamped P := by
  simpa only [Stamped, ownRecords_shareStep, motionRecords_shareStep] using h

end EntityState

namespace EntityTracker

open EntityState

/-- Every state has its times in `P`, and every shared record was kept as it arrived. -/
structure Stamped (P : Int64 → Prop) (t : EntityTracker) : Prop where
  states : ∀ p ∈ t.entities.entries, p.2.Stamped P
  shared : ∀ sr, some sr ∈ t.shared → sr.record.Kept P

variable {P : Int64 → Prop} {t : EntityTracker}

theorem stamped_empty (P : Int64 → Prop) : ({} : EntityTracker).Stamped P :=
  ⟨fun _ h => (by cases h), fun _ h => (by cases h)⟩

theorem Stamped.modify (h : t.Stamped P) (id : Int32) {f : EntityState → EntityState}
    (hf : ∀ st, st.Stamped P → (f st).Stamped P) : (t.modify id f).Stamped P := by
  refine ⟨fun p hp => ?_, h.shared⟩
  rcases KeyMap.mem_entries_alter hp with hp | hp | ⟨q, hq, hp⟩
  · exact h.states p hp
  · exact hp ▸ hf _ (EntityState.stamped_empty P)
  · exact hp ▸ hf _ (h.states q hq)

theorem Stamped.onSpawn (h : t.Stamped P) (id : Int32) {r : TimedRecord} (hr : r.Kept P) :
    (t.onSpawn id r).Stamped P :=
  h.modify id fun _ hst => hst.push (ownRecords_append_own _ _) rfl hr

theorem Stamped.onGeneric (h : t.Stamped P) (id : Int32) {r : TimedRecord} (hr : r.Kept P) :
    (t.onGeneric id r).Stamped P :=
  h.modify id fun _ hst => hst.push (ownRecords_append_own _ _) rfl hr

theorem Stamped.onMovement (h : t.Stamped P) {time : Int64} (ht : P time) (m : Movement) :
    (t.onMovement time m).Stamped P := by
  obtain ⟨f, hf, heq⟩ := moves_onMovement (t := t) time m
  rw [heq]
  exact h.modify _ fun st hst => hst.move (hf st).1 (hf st).2 ht

theorem Stamped.onTeleport (h : t.Stamped P) {time : Int64} (ht : P time) (tp : Teleport) :
    (t.onTeleport time tp).Stamped P :=
  h.modify _ fun _ hst => hst.move rfl rfl ht

theorem Stamped.onDestroy (h : t.Stamped P) (ids : List Int32) : (t.onDestroy ids).Stamped P :=
  ⟨fun p hp => h.states p (KeyMap.mem_entries_foldl_erase hp), h.shared⟩

theorem Stamped.onShared (h : t.Stamped P) (ids : List Int32) {r : TimedRecord} (hr : r.Kept P) :
    (t.onShared ids r).Stamped P := by
  rw [onShared_eq]
  have hstart : ({ t with shared := t.shared ++ [some ⟨r, ids⟩] } : EntityTracker).Stamped P := by
    refine ⟨h.states, fun sr hsr => ?_⟩
    rcases List.mem_append.mp hsr with hsr | hsr
    · exact h.shared sr hsr
    · cases List.mem_singleton.mp hsr
      exact hr
  have hfold : ∀ (ids : List Int32) (u : EntityTracker), u.Stamped P →
      (ids.foldl (fun u id => u.modify id (shareStep t.shared.length)) u).Stamped P := by
    intro ids
    induction ids with
    | nil => exact fun _ hu => hu
    | cons id rest ih => exact fun u hu => ih _ (hu.modify id fun _ hst => hst.shareStep _)
  exact hfold ids _ hstart

/-- Every record the tracker synthesizes carries a time in `P`, and was kept as it arrived or
is a move of its entity. -/
theorem Stamped.mem_synthesize (h : t.Stamped P) {r : TimedRecord} (hr : r ∈ t.synthesize) :
    r.Kept P := by
  rw [synthesize_eq] at hr
  rcases mem_foldl_entityStep_source t _ _ hr with hr | ⟨sr, hsr, rfl⟩ | ⟨p, hp, hr | hr⟩
  · cases hr
  · exact h.shared sr hsr
  · exact (h.states p hp).1 r hr
  · refine ⟨(h.states p hp).2 p.1 r hr, ?_⟩
    rw [motionRecords_eq] at hr
    simp only [List.mem_append, List.mem_map, Option.mem_toList] at hr
    rcases hr with (⟨_, -, rfl⟩ | ⟨_, -, rfl⟩) | ⟨_, -, rfl⟩ <;>
      exact verbatim_typed _ (by rintro ⟨⟩) (by rintro ⟨⟩)

end EntityTracker

namespace ChunkState

/-- A column state's times are in `P`. -/
def Stamped (P : Int64 → Prop) (c : ChunkState) : Prop :=
  P c.firstAppearance ∧ ∀ q ∈ c.blockChanges.entries, P q.2.1

theorem mem_blockChanges_apply (c : ChunkState) (column : ChunkColumn) {q : Nat × Int64 × BlockChange}
    (h : q ∈ (c.apply column).blockChanges.entries) : q ∈ c.blockChanges.entries := by
  have hstep (c : ChunkState) (e : Nat × Option (List UInt8)) :
      ∀ q ∈ (c.sectionStep e).blockChanges.entries, q ∈ c.blockChanges.entries := by
    obtain ⟨i, s⟩ := e
    cases s with
    | none => exact fun _ h => h
    | some payload => exact fun _ h => (List.mem_filter.mp h).1
  have hfold := rel_foldl_sectionStep
    (R := fun c c' => ∀ q ∈ c'.blockChanges.entries, q ∈ c.blockChanges.entries)
    (fun _ _ h => h) (fun _ _ _ h h' q hq => h q (h' q hq)) hstep
  exact apply_of_takeSections
    (P := fun c' => q ∈ c'.blockChanges.entries → q ∈ c.blockChanges.entries)
    (fun _ _ h => h) (hfold _ c q) h

theorem Stamped.apply {P : Int64 → Prop} {c : ChunkState} (h : c.Stamped P) (column : ChunkColumn) :
    (c.apply column).Stamped P :=
  ⟨(shrinks_apply c column).firstAppearance ▸ h.1,
    fun q hq => h.2 q (mem_blockChanges_apply c column hq)⟩

end ChunkState

namespace ChunkTracker

/-- Every pending unload and every column has its times in `P`. -/
structure Stamped (P : Int64 → Prop) (t : ChunkTracker) : Prop where
  unloads : ∀ p ∈ t.pendingUnloads.entries, P p.2
  columns : ∀ p ∈ t.chunks.entries, p.2.Stamped P

variable {P : Int64 → Prop} {t : ChunkTracker} {time : Int64}

theorem stamped_empty (P : Int64 → Prop) : ({} : ChunkTracker).Stamped P :=
  ⟨fun _ h => (by cases h), fun _ h => (by cases h)⟩

theorem Stamped.onColumn (h : t.Stamped P) (ht : P time) (column : ChunkColumn) :
    (t.onColumn time column).Stamped P := by
  unfold ChunkTracker.onColumn
  dsimp only
  split
  · split
    · exact ⟨h.unloads, fun p hp => h.columns p (List.mem_filter.mp hp).1⟩
    · refine ⟨fun p hp => ?_, h.columns⟩
      rcases KeyMap.mem_entries_insert hp with rfl | hp
      · exact ht
      · exact h.unloads p hp
  · refine ⟨fun p hp => h.unloads p (List.mem_filter.mp hp).1, fun p hp => ?_⟩
    rcases KeyMap.mem_entries_alter hp with hp | hp | ⟨q, hq, hp⟩
    · exact h.columns p hp
    · exact hp ▸ ChunkState.Stamped.apply ⟨ht, fun _ hq => (by cases hq)⟩ column
    · exact hp ▸ (h.columns q hq).apply column

theorem Stamped.onBlock (h : t.Stamped P) (ht : P time) (change : BlockChange) :
    (t.onBlock time change).1.Stamped P := by
  unfold ChunkTracker.onBlock
  dsimp only
  split
  · next chunk level hfind _ =>
    have hchunk : chunk.Stamped P := by
      obtain ⟨k, hk⟩ := KeyMap.find?_mem hfind
      exact h.columns _ hk
    have hinsert : ∀ (key : UInt64) (c : ChunkState), c.Stamped P →
        Stamped P { t with chunks := t.chunks.insert key c } := by
      intro key c hc
      refine ⟨h.unloads, fun p hp => ?_⟩
      rcases KeyMap.mem_entries_insert hp with rfl | hp
      · exact hc
      · exact h.columns p hp
    have hstored : ∀ k, ({ chunk with blockChanges := chunk.blockChanges.insert k (time, change) }
        : ChunkState).Stamped P := by
      refine fun k => ⟨hchunk.1, fun q hq => ?_⟩
      rcases KeyMap.mem_entries_insert hq with rfl | hq
      · exact ht
      · exact hchunk.2 q hq
    split
    · split
      · exact h
      · exact hinsert _ _ (hstored _)
    · exact hinsert _ _ (hstored _)
  · exact h

/-- Every record the tracker synthesizes carries a time in `P` and changes a column: an
unload, a whole column or a block. -/
theorem Stamped.mem_synthesize (h : t.Stamped P) {r : TimedRecord} (hr : r ∈ t.synthesize) :
    r.Written P := by
  rw [synthesize_eq, List.mem_append] at hr
  rcases hr with hr | hr
  · obtain ⟨p, hp, rfl⟩ := List.mem_map.mp hr
    exact ⟨h.unloads p hp, rfl⟩
  · obtain ⟨c, hc, hr⟩ := List.mem_flatMap.mp hr
    obtain ⟨p, hp, rfl⟩ := List.mem_map.mp hc
    have hst := h.columns p hp
    rcases List.mem_cons.mp hr with rfl | hr
    · exact ⟨hst.1, rfl⟩
    · obtain ⟨tc, htc, rfl⟩ := List.mem_map.mp hr
      obtain ⟨q, hq, rfl⟩ := List.mem_map.mp htc
      exact ⟨hst.2 q hq, rfl⟩

end ChunkTracker

namespace WindowTracker

/-- Every record the tracker holds was kept as it arrived, at a time in `P`. -/
structure Stamped (P : Int64 → Prop) (w : WindowTracker) : Prop where
  current : ∀ r ∈ w.currentWindow, r.Kept P
  closes : ∀ r ∈ w.closeRecords, r.Kept P
  snapshot : ∀ r ∈ w.mainInventory, r.Kept P
  slots : ∀ p ∈ w.slotChanges.entries, p.2.Kept P

variable {P : Int64 → Prop} {w : WindowTracker} {r : TimedRecord}

theorem stamped_empty (P : Int64 → Prop) : ({} : WindowTracker).Stamped P :=
  ⟨fun _ h => (by cases h), fun _ h => (by cases h), fun _ h => (by cases h),
    fun _ h => (by cases h)⟩

theorem Stamped.onMainInventory (h : w.Stamped P) (hr : r.Kept P) :
    (w.onMainInventory r).Stamped P :=
  { h with
    snapshot := fun x hx => Option.mem_some_iff.mp hx ▸ hr
    slots := fun _ hp => by cases hp }

theorem Stamped.onMainSlot (h : w.Stamped P) (slot : Int16) (hr : r.Kept P) :
    (w.onMainSlot slot r).Stamped P :=
  { h with
    slots := fun p hp => by
      rcases KeyMap.mem_entries_insert hp with rfl | hp
      · exact hr
      · exact h.slots p hp }

theorem Stamped.onSecondary (h : w.Stamped P) (hr : r.Kept P) : (w.onSecondary r).Stamped P :=
  { h with
    current := fun x hx => by
      rcases List.mem_append.mp hx with hx | hx
      · exact h.current x hx
      · exact List.mem_singleton.mp hx ▸ hr }

theorem Stamped.onClose (h : w.Stamped P) (hr : r.Kept P) : (w.onClose r).Stamped P :=
  { h with
    current := fun _ hx => by cases hx
    closes := fun x hx => by
      rcases List.mem_append.mp hx with hx | hx
      · exact h.closes x hx
      · exact List.mem_singleton.mp hx ▸ hr }

theorem Stamped.clearCurrent (h : w.Stamped P) : w.clearCurrent.Stamped P :=
  { h with current := fun _ hx => by cases hx }

theorem Stamped.mem_synthesize (h : w.Stamped P) (hr : r ∈ w.synthesize) : r.Kept P := by
  simp only [synthesize, List.mem_append, Option.mem_toList] at hr
  rcases hr with ((hr | hr) | hr) | hr
  · exact h.current r hr
  · exact h.closes r hr
  · exact h.snapshot r hr
  · obtain ⟨p, hp, rfl⟩ := List.mem_map.mp hr
    exact h.slots p hp

end WindowTracker

namespace Squasher

/-- The times a squasher may write lie in `P`: those of the records it keeps as they arrived,
those the entity, chunk and window trackers hold, those of the join and the respawn, and the
last time taken in once the session holds something stamped with it. -/
structure Stamped (P : Int64 → Prop) (s : Squasher) : Prop where
  unhandled : ∀ r ∈ s.unhandled, r.Kept P
  currentWorld : ∀ r ∈ s.currentWorld, r.Kept P
  windows : s.windows.Stamped P
  join : ∀ T j, s.session.join = some (T, j) → P T
  respawn : ∀ T rs, s.session.respawn = some (T, rs) → P T
  lastTime : P s.lastTime ∨
    (s.session.gameMode = none ∧ s.session.experience = none ∧ s.session.abilities = none)
  entities : s.entities.Stamped P
  chunks : s.chunks.Stamped P

variable {P : Int64 → Prop} {s : Squasher} {time : Int64} {rec : Record}

theorem stamped_new (P : Int64 → Prop) (config : SquashConfig) : (new config).Stamped P where
  unhandled _ h := by cases h
  currentWorld _ h := by cases h
  windows := WindowTracker.stamped_empty P
  join _ _ h := by cases h
  respawn _ _ h := by cases h
  lastTime := .inr ⟨rfl, rfl, rfl⟩
  entities := EntityTracker.stamped_empty P
  chunks := ChunkTracker.stamped_empty P

theorem Stamped.note (h : s.Stamped P) (n : SquashNote) : (s.note n).Stamped P := { h with }

theorem Stamped.passThrough (h : s.Stamped P) (hk : Kept P ⟨time, rec⟩) :
    (s.passThrough time rec).Stamped P :=
  { h with
    unhandled := fun x hx => by
      rcases List.mem_append.mp hx with hx | hx
      · exact h.unhandled x hx
      · exact List.mem_singleton.mp hx ▸ hk }

theorem Stamped.onWorld (h : s.Stamped P) (hk : Kept P ⟨time, rec⟩) :
    (s.onWorld time rec).Stamped P := by
  unfold Squasher.onWorld
  split
  · exact { h with }
  · exact { h with
      currentWorld := fun x hx => by
        rcases List.mem_append.mp hx with hx | hx
        · exact h.currentWorld x hx
        · exact List.mem_singleton.mp hx ▸ hk }

theorem Stamped.onWindow (h : s.Stamped P) (hk : Kept P ⟨time, rec⟩) :
    (s.onWindow time rec).Stamped P := by
  have hother : (if rec.kind == RecordKind.confirmTransaction &&
      s.config.dropTransactionConfirms then
      { s with report.confirmsDropped := s.report.confirmsDropped + 1 }
      else { s with windows := s.windows.onSecondary ⟨time, rec⟩ }).Stamped P := by
    split
    · exact { h with }
    · exact { h with windows := h.windows.onSecondary hk }
  unfold Squasher.onWindow
  dsimp only
  split
  · exact { h with windows := h.windows.onClose hk }
  · split
    · exact { h with windows := h.windows.onMainInventory hk }
    · exact hother
  · split
    · exact { h with windows := h.windows.onMainSlot _ hk }
    · exact hother
  · exact hother

theorem Stamped.onEntity (h : s.Stamped P) (hk : Kept P ⟨time, rec⟩) :
    (s.onEntity time rec).Stamped P := by
  unfold Squasher.onEntity
  split
  · exact h.passThrough hk
  · split
    · exact { h with
        entities := h.entities.onDestroy _
        currentWorld := fun x hx => by
          rcases List.mem_append.mp hx with hx | hx
          · exact h.currentWorld x hx
          · exact List.mem_singleton.mp hx ▸ hk }
    · exact { h with entities := h.entities.onShared _ hk }
  · split
    · exact { h with entities := h.entities.onMovement hk.1 _ }
    · exact { h with entities := h.entities.onTeleport hk.1 _ }
    · split
      · exact { h with entities := h.entities.onSpawn _ hk }
      · exact { h with entities := h.entities.onGeneric _ hk }
    · exact { h with entities := h.entities.onGeneric _ hk }

theorem Stamped.onBlock (h : s.Stamped P) (ht : P time) (change : BlockChange) :
    (s.onBlock time change).Stamped P := by
  unfold Squasher.onBlock
  dsimp only
  split
  · exact { h with chunks := h.chunks.onBlock ht change }
  · exact { h with chunks := h.chunks.onBlock ht change }

theorem Stamped.foldl_onBlock (ht : P time) :
    ∀ (changes : List BlockChange) {s : Squasher}, s.Stamped P →
      (changes.foldl (·.onBlock time ·) s).Stamped P
  | [], _, h => h
  | c :: rest, _, h => Stamped.foldl_onBlock ht rest (h.onBlock ht c)

theorem Stamped.onChunk (h : s.Stamped P) (ht : P time) {p : Payload} (hd : p.kind.domain = .chunk) :
    (s.onChunk time (.typed p)).Stamped P := by
  have hcolumns : ∀ (cs : List ChunkColumn) (t : ChunkTracker), t.Stamped P →
      (cs.foldl (·.onColumn time ·) t).Stamped P := by
    intro cs
    induction cs with
    | nil => exact fun _ ht' => ht'
    | cons c rest ih => exact fun t ht' => ih _ (ht'.onColumn ht c)
  unfold Squasher.onChunk
  split
  · exact { h with chunks := h.chunks.onColumn ht _ }
  · exact { h with chunks := hcolumns _ _ h.chunks }
  · exact h.onBlock ht _
  · exact Stamped.foldl_onBlock ht _ h
  · exfalso
    cases p <;> simp_all [Payload.kind, RecordKind.domain]

theorem Stamped.onSession (h : s.Stamped P) (hl : P s.lastTime) (hk : Kept P ⟨time, rec⟩) :
    (s.onSession time rec).Stamped P := by
  unfold Squasher.onSession
  split
  · exact { h with
      join := fun T j hj => by
        cases hj
        exact hk.1
      lastTime := .inl hl }
  · exact { h with
      respawn := fun T rs hrs => by
        cases hrs
        exact hk.1
      lastTime := .inl hl
      currentWorld := fun _ hx => by cases hx
      windows := h.windows.clearCurrent
      entities := EntityTracker.stamped_empty P
      chunks := ChunkTracker.stamped_empty P }
  · exact { h with lastTime := .inl hl }
  · exact { h with lastTime := .inl hl }
  · exact { h with lastTime := .inl hl }
  · exact { h with }
  · exact h.passThrough hk

/-- Taking in a record at a time in `P` keeps every time the squasher may write in `P`. -/
theorem Stamped.consume (h : s.Stamped P) {r : TimedRecord} (hr : P r.time) :
    (s.consume r).Stamped P := by
  obtain ⟨time, rec⟩ := r
  have h₁ : Stamped P
      { s with lastTime := time, report.recordsConsumed := s.report.recordsConsumed + 1 } :=
    { h with lastTime := .inl hr }
  unfold Squasher.consume
  cases rec with
  | raw kind data =>
    have hk : Kept P ⟨time, .raw kind data⟩ := ⟨hr, verbatim_raw time kind data⟩
    dsimp only
    split
    · exact (h₁.passThrough hk).note _
    · split
      · exact h₁.onWorld hk
      · exact h₁.onWindow hk
      · exact h₁.passThrough hk
  | typed p =>
    dsimp only
    split
    · next hd => exact h₁.onEntity ⟨hr, verbatim_typed time (by rw [hd]; decide) (by rw [hd]; decide)⟩
    · next hd => exact h₁.onChunk hr hd
    · next hd => exact h₁.onWorld ⟨hr, verbatim_typed time (by rw [hd]; decide) (by rw [hd]; decide)⟩
    · next hd => exact h₁.onWindow ⟨hr, verbatim_typed time (by rw [hd]; decide) (by rw [hd]; decide)⟩
    · next hd =>
      split
      · exact { h₁ with }
      · exfalso
        cases p <;> simp_all [Payload.kind, RecordKind.domain]
    · next hd => exact h₁.onSession hr ⟨hr, verbatim_typed time (by rw [hd]; decide) (by rw [hd]; decide)⟩
    · next hd => exact h₁.passThrough ⟨hr, verbatim_typed time (by rw [hd]; decide) (by rw [hd]; decide)⟩

/-- A pass over records whose times are all in `P` keeps every time the squasher may write in
`P`, whatever order the records come in. -/
theorem Stamped.consumeAll : ∀ (l : List TimedRecord) {s : Squasher}, s.Stamped P →
    (∀ r ∈ l, P r.time) → (s.consumeAll l).Stamped P
  | [], _, h, _ => h
  | r :: rest, _, h, hl => Stamped.consumeAll rest (h.consume (hl r (.head _)))
      fun x hx => hl x (.tail _ hx)

/-- The session records carry the join's time, the respawn's, or the last time taken in. -/
theorem Stamped.mem_synthesizeSession (h : s.Stamped P) {r : TimedRecord}
    (hr : r ∈ s.session.synthesizeSession s.lastTime) : r.Kept P := by
  have hsession : ∀ p : Payload, p.kind.domain = .session →
      ∀ t, P t → Kept P ⟨t, .typed p⟩ :=
    fun p hd t ht => ⟨ht, verbatim_typed t (by rw [hd]; decide) (by rw [hd]; decide)⟩
  rw [SessionState.synthesizeSession_eq, List.mem_append] at hr
  rcases hr with hr | hr
  · unfold SessionState.sessionRecord at hr
    split at hr
    · next T j hj =>
      rw [List.mem_singleton.mp hr]
      exact hsession _ rfl _ (h.join T j hj)
    · next T rs _ hrs =>
      rw [List.mem_singleton.mp hr]
      exact hsession _ rfl _ (h.respawn T rs hrs)
    · next m _ _ hm =>
      rw [List.mem_singleton.mp hr]
      refine hsession _ rfl _ (h.lastTime.resolve_right fun ⟨h', _⟩ => ?_)
      rw [hm] at h'
      cases h'
    · cases hr
  · unfold SessionState.statusRecords at hr
    simp only [List.mem_append, List.mem_map, Option.mem_toList] at hr
    rcases hr with ⟨e, he, rfl⟩ | ⟨a, ha, rfl⟩
    · refine hsession _ rfl _ (h.lastTime.resolve_right fun ⟨_, h', _⟩ => ?_)
      rw [h'] at he
      cases he
    · refine hsession _ rfl _ (h.lastTime.resolve_right fun ⟨_, _, h'⟩ => ?_)
      rw [h'] at ha
      cases ha

/-- Every record `finish` sorts carries a time in `P` and changes no team. -/
theorem Stamped.mem_body (h : s.Stamped P) {r : TimedRecord} (hr : r ∈ s.body) : r.Written P := by
  simp only [body, List.mem_append] at hr
  rcases hr with ((((hr | hr) | hr) | hr) | hr) | hr
  · exact (h.unhandled r hr).written
  · exact (h.currentWorld r hr).written
  · exact (h.windows.mem_synthesize hr).written
  · exact (h.mem_synthesizeSession hr).written
  · exact (h.entities.mem_synthesize hr).written
  · exact h.chunks.mem_synthesize hr

end Squasher

end SessionSquash
