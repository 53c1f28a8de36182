import SessionSquash.Proofs.Squash.Routing

namespace SessionSquash

set_option autoImplicit false

open ReplayView

namespace TimedRecord

/-- A record of the session or of a window. -/
def OfSessionOrWindow (r : TimedRecord) : Prop :=
  r.record.kind.domain = .session ∨ r.record.kind.domain = .window

/-- A join or a respawn: the records that start a session. -/
def startsSession (r : TimedRecord) : Bool :=
  match r.record with
  | .typed (.join _) => true
  | .typed (.respawn _) => true
  | _ => false

/-- A snapshot of the main inventory. -/
def isMainSnapshot (r : TimedRecord) : Bool :=
  match r.record with
  | .typed (.windowItems w) => w.isMainInventory
  | _ => false

/-- The main-inventory slot a record changes, if it changes one. -/
def mainSlot? (r : TimedRecord) : Option Int16 :=
  match r.record with
  | .typed (.setSlot d) => if d.isMainInventory then some d.slot else none
  | _ => none

/-- A record that changes nothing starts no session, is no snapshot and changes no slot. -/
theorem plain_of_inert {r : TimedRecord} (h : Inert r) :
    r.startsSession = false ∧ r.isMainSnapshot = false ∧ r.mainSlot? = none := by
  obtain ⟨time, rec⟩ := r
  cases rec with
  | raw => exact ⟨rfl, rfl, rfl⟩
  | typed p =>
    cases p
    case join => exact absurd (congrArg Change.session h) nofun
    case respawn => exact absurd (congrArg Change.session h) nofun
    case windowItems w =>
      cases hm : w.isMainInventory
      · simp [startsSession, isMainSnapshot, mainSlot?, hm]
      · exact absurd (congrArg Change.inventory h) (by simp [change, payloadChange, hm])
    case setSlot d =>
      cases hm : d.isMainInventory
      · simp [startsSession, isMainSnapshot, mainSlot?, hm]
      · exact absurd (congrArg Change.inventory h) (by simp [change, payloadChange, hm])
    all_goals exact ⟨rfl, rfl, rfl⟩

end TimedRecord

namespace SessionState

/-- A join or a respawn was taken in. -/
def started (s : SessionState) : Bool := s.join.isSome || s.respawn.isSome

/-- The bare game-mode change is written only while no session has started. -/
theorem started_of_mem_synthesizeSession {s : SessionState} {lastTime time : Int64}
    {m : GameMode}
    (h : ⟨time, .typed (.notify (.changeGameMode m))⟩ ∈ s.synthesizeSession lastTime) :
    s.started = false := by
  rw [synthesizeSession_eq, List.mem_append] at h
  rcases h with h | h
  · unfold sessionRecord at h
    split at h
    · simp at h
    · simp at h
    · next hj hr _ => simp [started, hj, hr]
    · cases h
  · unfold statusRecords at h
    simp at h

end SessionState

namespace Squasher

/-- The session part of the view a squasher stands for. -/
def sessionView (s : Squasher) : ReplayView :=
  { session := s.session.view, maps := s.session.maps, inventory := s.windows.inventory }

/-- What the session state and the window tracker keep, whatever the order of times. -/
structure SessionSound (s : Squasher) : Prop where
  session : s.session.Valid
  windows : s.windows.Sound

theorem SessionSound.wf {s : Squasher} (hs : s.SessionSound) : s.sessionView.WF :=
  { wf_empty with inventory := s.windows.sorted_inventory, maps := hs.session.sorted }

/-- Taking in `r` moved `s` to `s'` as replaying `r` moves the session part of a view, kept what
the trackers keep, started the session at a join or a respawn, and kept the last snapshot and
the last change of each slot since it. -/
structure SessionSteps (s : Squasher) (r : TimedRecord) (s' : Squasher) : Prop where
  view : s'.sessionView = s.sessionView.apply r
  sound : s'.SessionSound
  started : s'.session.started = (s.session.started || r.startsSession)
  snapshot : s'.windows.mainInventory =
    if r.isMainSnapshot then some r else s.windows.mainInventory
  slots : ∀ k, s'.windows.slotChanges.find? k =
    if r.isMainSnapshot then none
    else if r.mainSlot? = some k then some r else s.windows.slotChanges.find? k

variable {s s' : Squasher} {r : TimedRecord}

/-- A record that leaves the snapshot and the slot changes alone. -/
theorem SessionSteps.of_kept (hss : s'.session.Valid) (hw : s'.windows.Sound)
    (hview : s.sessionView.apply r =
      { s.sessionView with session := s'.session.view, maps := s'.session.maps })
    (hstarted : s'.session.started = (s.session.started || r.startsSession))
    (hsnap : r.isMainSnapshot = false) (hslot : r.mainSlot? = none)
    (hmain : s'.windows.mainInventory = s.windows.mainInventory)
    (hslots : s'.windows.slotChanges = s.windows.slotChanges) : SessionSteps s r s' where
  view := by
    rw [hview]
    simp only [sessionView, WindowTracker.inventory, WindowTracker.snapshot, hmain, hslots]
  sound := ⟨hss, hw⟩
  started := hstarted
  snapshot := by simp [hsnap, hmain]
  slots k := by simp [hsnap, hslot, hslots]

/-- A record that changes nothing, taken in without touching the session state, the snapshot
or the slot changes. -/
theorem SessionSteps.of_inert (hs : s.SessionSound) (hr : Inert r)
    (hsess : s'.session = s.session) (hw : s'.windows.Sound)
    (hmain : s'.windows.mainInventory = s.windows.mainInventory)
    (hslots : s'.windows.slotChanges = s.windows.slotChanges) : SessionSteps s r s' := by
  obtain ⟨hst, hsnap, hslot⟩ := TimedRecord.plain_of_inert hr
  refine .of_kept (hsess ▸ hs.session) hw ?_ ?_ hsnap hslot hmain hslots
  · rw [apply_of_inert hr hs.wf, hsess]
    rfl
  · rw [hsess, hst, Bool.or_false]

/-- A record that changes the main inventory only, taken in by the window tracker. -/
theorem SessionSteps.of_windows (hs : s.SessionSound) {c : InventoryChange}
    (hr : change r = { inventory := c }) {w : WindowTracker}
    (hview : w.inventory = c.run s.windows.inventory) (hw : w.Sound)
    (hst : r.startsSession = false)
    (hsnap : w.mainInventory = if r.isMainSnapshot then some r else s.windows.mainInventory)
    (hslots : ∀ k, w.slotChanges.find? k =
      if r.isMainSnapshot then none
      else if r.mainSlot? = some k then some r else s.windows.slotChanges.find? k) :
    SessionSteps s r { s with windows := w } where
  view := by
    rw [apply_eq_run hs.wf.chunks, hr]
    simp only [sessionView, hview]
    rfl
  sound := ⟨hs.session, hw⟩
  started := by rw [hst, Bool.or_false]
  snapshot := hsnap
  slots := hslots

theorem sessionSteps_onWindow (hs : s.SessionSound) {time : Int64} {rec : Record}
    (hd : rec.kind.domain = .window) : SessionSteps s ⟨time, rec⟩ (s.onWindow time rec) := by
  have hother : Inert ⟨time, rec⟩ → SessionSteps s ⟨time, rec⟩
      (if rec.kind == RecordKind.confirmTransaction && s.config.dropTransactionConfirms then
        { s with report.confirmsDropped := s.report.confirmsDropped + 1 }
      else { s with windows := s.windows.onSecondary ⟨time, rec⟩ }) := fun hr => by
    split
    · exact .of_inert hs hr rfl hs.windows rfl rfl
    · exact .of_inert hs hr rfl (hs.windows.onSecondary hr) rfl rfl
  unfold onWindow
  dsimp only
  split
  · exact .of_inert hs rfl rfl (hs.windows.onClose rfl) rfl rfl
  · next w =>
    split
    · next hmain =>
      have hr := change_windowItems_main time hmain
      refine .of_windows hs hr ?_ (hs.windows.onMainInventory hr) rfl ?_ fun k => ?_
      · rw [WindowTracker.inventory_onMainInventory, hr]
        rfl
      · simp [TimedRecord.isMainSnapshot, hmain, WindowTracker.onMainInventory]
      · simp [TimedRecord.isMainSnapshot, hmain, WindowTracker.onMainInventory,
          KeyMap.find?_empty]
    · next hmain => exact hother (inert_windowItems time (Bool.eq_false_iff.mpr hmain))
  · next d =>
    split
    · next hmain =>
      have hr := change_setSlot_main time hmain
      refine .of_windows hs hr (WindowTracker.inventory_onMainSlot hs.windows.sorted d.slot _)
        (hs.windows.onMainSlot d.slot hr) rfl rfl fun k => ?_
      simp [TimedRecord.isMainSnapshot, TimedRecord.mainSlot?, hmain]
    · next hmain => exact hother (inert_setSlot time (Bool.eq_false_iff.mpr hmain))
  · next hc hw hslot => exact hother (inert_of_window time hd hw hslot)

theorem sessionSteps_onSession (hs : s.SessionSound) {time : Int64} {p : Payload}
    (hd : p.kind.domain = .session) :
    SessionSteps s ⟨time, .typed p⟩ (s.onSession time (.typed p)) := by
  have hwf := hs.wf
  unfold onSession
  split
  · next j heq =>
    cases heq
    exact .of_kept (hs.session.onJoin time j) hs.windows
      (by rw [apply_eq_run hwf.chunks]; rfl)
      (by simp [SessionState.started, SessionState.onJoin, TimedRecord.startsSession])
      rfl rfl rfl rfl
  · next rs heq =>
    cases heq
    exact .of_kept (hs.session.onRespawn time rs) hs.windows.clearCurrent
      (by rw [apply_eq_run hwf.chunks]; rfl)
      (by simp [SessionState.started, SessionState.onRespawn, TimedRecord.startsSession,
        Squasher.resetWorld, Squasher.note]) rfl rfl rfl rfl
  · next m heq =>
    cases heq
    exact .of_kept (hs.session.onGameMode m) hs.windows
      (by rw [apply_eq_run hwf.chunks]; rfl) (Bool.or_false _).symm rfl rfl rfl rfl
  · next e heq =>
    cases heq
    exact .of_kept (hs.session.onExperience e) hs.windows
      (by rw [apply_eq_run hwf.chunks]; rfl) (Bool.or_false _).symm rfl rfl rfl rfl
  · next a heq =>
    cases heq
    exact .of_kept (hs.session.onAbilities a) hs.windows
      (by rw [apply_eq_run hwf.chunks]; rfl) (Bool.or_false _).symm rfl rfl rfl rfl
  · next m heq =>
    cases heq
    exact .of_kept (hs.session.onMap m) hs.windows
      (by rw [apply_eq_run hwf.chunks]; rfl) (Bool.or_false _).symm rfl rfl rfl rfl
  · next hj hr hg _ _ hm =>
    exact .of_inert hs (inert_of_session time hd hj hr hg hm) rfl hs.windows rfl rfl

/-- Taking in a record of the session or of a window moves the session part as replaying it
does. -/
theorem sessionSteps_consume (hs : s.SessionSound) (hr : r.OfSessionOrWindow) :
    SessionSteps s r (s.consume r) := by
  obtain ⟨time, rec⟩ := r
  have hb : SessionSound
      { s with lastTime := time, report.recordsConsumed := s.report.recordsConsumed + 1 } :=
    ⟨hs.session, hs.windows⟩
  have hbook : ∀ {s'}, SessionSteps
      { s with lastTime := time, report.recordsConsumed := s.report.recordsConsumed + 1 }
      ⟨time, rec⟩ s' → SessionSteps s ⟨time, rec⟩ s' :=
    fun h => ⟨h.view, h.sound, h.started, h.snapshot, h.slots⟩
  unfold Squasher.consume
  cases rec with
  | raw kind data =>
    have hd : kind.domain = .session ∨ kind.domain = .window := hr
    dsimp only
    split
    · exact .of_inert hs (inert_raw time kind data) rfl hs.windows rfl rfl
    · split
      · next hw => simp [hw] at hd
      · next hw => exact hbook (sessionSteps_onWindow hb hw)
      · exact .of_inert hs (inert_raw time kind data) rfl hs.windows rfl rfl
  | typed p =>
    have hd : p.kind.domain = .session ∨ p.kind.domain = .window := hr
    dsimp only
    split
    case h_4 hw => exact hbook (sessionSteps_onWindow hb hw)
    case h_6 hs' => exact hbook (sessionSteps_onSession hb hs')
    all_goals next hother => simp [hother] at hd

/-- What a run of records of the session and of windows did: it moved the session part as
replaying the records does, kept what the trackers keep, started the session if a join or a
respawn came, and kept the last snapshot and, for each slot, the last change since it. -/
structure SessionRun (s : Squasher) (rs : List TimedRecord) (s' : Squasher) : Prop where
  view : s'.sessionView = rs.foldl ReplayView.apply s.sessionView
  sound : s'.SessionSound
  started : s'.session.started = (s.session.started || rs.any TimedRecord.startsSession)
  snapshot : s'.windows.mainInventory =
    (rs.reverse.find? TimedRecord.isMainSnapshot).or s.windows.mainInventory
  slots : ∀ k, s'.windows.slotChanges.find? k =
    ((rs.reverse.takeWhile fun r => !r.isMainSnapshot).find? fun r => r.mainSlot? == some k).or
      (if rs.any TimedRecord.isMainSnapshot then none else s.windows.slotChanges.find? k)

theorem sessionRun_nil (hs : s.SessionSound) : SessionRun s [] s :=
  ⟨rfl, hs, by simp, by simp, fun _ => by simp⟩

theorem SessionRun.snoc {rs : List TimedRecord} {s'' : Squasher} (h : SessionRun s rs s')
    (hstep : SessionSteps s' r s'') : SessionRun s (rs ++ [r]) s'' where
  view := by rw [hstep.view, h.view, List.foldl_append, List.foldl_cons, List.foldl_nil]
  sound := hstep.sound
  started := by rw [hstep.started, h.started, List.any_append, Bool.or_assoc]; simp
  snapshot := by
    rw [hstep.snapshot, h.snapshot, List.reverse_append]
    cases hm : r.isMainSnapshot <;> simp [hm]
  slots k := by
    rw [hstep.slots, h.slots, List.reverse_append, List.any_append]
    cases hm : r.isMainSnapshot
    · by_cases hk : r.mainSlot? = some k <;> simp [hm, hk]
    · simp [hm]

theorem sessionRun_consumeAll (hs : s.SessionSound) :
    ∀ {rs : List TimedRecord}, (∀ r ∈ rs, r.OfSessionOrWindow) →
      SessionRun s rs (s.consumeAll rs) := by
  intro rs
  induction rs using List.reverseRecOn with
  | nil => exact fun _ => sessionRun_nil hs
  | append_singleton rs r ih =>
    intro hr
    have hrun := ih fun x hx => hr x (List.mem_append_left _ hx)
    have heq : s.consumeAll (rs ++ [r]) = (s.consumeAll rs).consume r := by
      simp only [consumeAll, List.foldl_append, List.foldl_cons, List.foldl_nil]
    rw [heq]
    exact hrun.snoc (sessionSteps_consume hrun.sound (hr r (by simp)))

/-- What the window tracker and the session state synthesize replays, from nothing, to the
session part they stand for. -/
theorem SessionSound.replay_synthesize (hs : s.SessionSound) (lastTime endTime : Int64) :
    replay (s.windows.synthesize ++ s.session.synthesizeSession lastTime ++
      s.session.synthesizeMaps endTime) = s.sessionView := by
  have hinv : ({ inventory := s.windows.inventory } : ReplayView).WF :=
    { wf_empty with inventory := s.windows.sorted_inventory }
  have hsess : ({ ({ inventory := s.windows.inventory } : ReplayView) with
      session := s.session.view }).WF := ⟨hinv.1, hinv.2, hinv.3, hinv.4, hinv.5⟩
  rw [replay, List.foldl_append, List.foldl_append,
    hs.windows.foldl_apply_synthesize wf_empty rfl,
    SessionState.foldl_apply_synthesizeSession hs.session lastTime hinv rfl rfl rfl,
    SessionState.foldl_apply_synthesizeMaps hs.session endTime hsess rfl]
  rfl

end Squasher

/-- A squash of session and window records, in any order of times, synthesizes what replays to
the recording's session scalars, maps and main inventory; the bare game-mode change is written
only when no join or respawn came; the snapshot is the last one, and the slot changes are the
last change of each slot since it. -/
theorem session_window_synthesis_replays (records : List TimedRecord)
    (hrec : ∀ r ∈ records, r.OfSessionOrWindow) (config : SquashConfig) (endTime : Int64) :
    replay (((Squasher.new config).consumeAll records).windows.synthesize ++
        ((Squasher.new config).consumeAll records).session.synthesizeSession
          ((Squasher.new config).consumeAll records).lastTime ++
        ((Squasher.new config).consumeAll records).session.synthesizeMaps endTime) =
      replay records ∧
    (∀ time m, ⟨time, .typed (.notify (.changeGameMode m))⟩ ∈
        ((Squasher.new config).consumeAll records).session.synthesizeSession
          ((Squasher.new config).consumeAll records).lastTime →
      records.any TimedRecord.startsSession = false) ∧
    ((Squasher.new config).consumeAll records).windows.mainInventory =
      records.reverse.find? TimedRecord.isMainSnapshot ∧
    ∀ k, ((Squasher.new config).consumeAll records).windows.slotChanges.find? k =
      (records.reverse.takeWhile fun r => !r.isMainSnapshot).find? fun r =>
        r.mainSlot? == some k := by
  have hnew : (Squasher.new config).SessionSound :=
    ⟨SessionState.valid_empty, WindowTracker.sound_empty⟩
  have hrun := Squasher.sessionRun_consumeAll hnew hrec
  refine ⟨?_, fun time m hm => ?_, ?_, fun k => ?_⟩
  · rw [hrun.sound.replay_synthesize, hrun.view]
    rfl
  · have hstarted := hrun.started
    rw [SessionState.started_of_mem_synthesizeSession hm] at hstarted
    exact (Bool.false_or _ ▸ hstarted).symm
  · rw [hrun.snapshot]
    simp [Squasher.new]
  · rw [hrun.slots]
    cases records.any TimedRecord.isMainSnapshot <;> simp [Squasher.new, KeyMap.find?_empty]

/-- A game-mode change and a window opened before it. -/
theorem creative_then_window_replays :
    (∀ r ∈ [(⟨5, .typed (.notify (.changeGameMode .creative))⟩ : TimedRecord),
        ⟨3, .raw .openWindow .null⟩], r.OfSessionOrWindow) ∧
      replay (((Squasher.new {}).consumeAll [⟨5, .typed (.notify (.changeGameMode .creative))⟩,
            ⟨3, .raw .openWindow .null⟩]).windows.synthesize ++
          ((Squasher.new {}).consumeAll [⟨5, .typed (.notify (.changeGameMode .creative))⟩,
            ⟨3, .raw .openWindow .null⟩]).session.synthesizeSession
            ((Squasher.new {}).consumeAll [⟨5, .typed (.notify (.changeGameMode .creative))⟩,
              ⟨3, .raw .openWindow .null⟩]).lastTime ++
          ((Squasher.new {}).consumeAll [⟨5, .typed (.notify (.changeGameMode .creative))⟩,
            ⟨3, .raw .openWindow .null⟩]).session.synthesizeMaps 9) =
        replay [⟨5, .typed (.notify (.changeGameMode .creative))⟩, ⟨3, .raw .openWindow .null⟩] ∧
      (∀ time m, ⟨time, .typed (.notify (.changeGameMode m))⟩ ∈
          ((Squasher.new {}).consumeAll [⟨5, .typed (.notify (.changeGameMode .creative))⟩,
            ⟨3, .raw .openWindow .null⟩]).session.synthesizeSession
            ((Squasher.new {}).consumeAll [⟨5, .typed (.notify (.changeGameMode .creative))⟩,
              ⟨3, .raw .openWindow .null⟩]).lastTime →
        [(⟨5, .typed (.notify (.changeGameMode .creative))⟩ : TimedRecord),
          ⟨3, .raw .openWindow .null⟩].any TimedRecord.startsSession = false) ∧
      ((Squasher.new {}).consumeAll [⟨5, .typed (.notify (.changeGameMode .creative))⟩,
          ⟨3, .raw .openWindow .null⟩]).windows.mainInventory =
        [(⟨5, .typed (.notify (.changeGameMode .creative))⟩ : TimedRecord),
          ⟨3, .raw .openWindow .null⟩].reverse.find? TimedRecord.isMainSnapshot ∧
      ∀ k, ((Squasher.new {}).consumeAll [⟨5, .typed (.notify (.changeGameMode .creative))⟩,
          ⟨3, .raw .openWindow .null⟩]).windows.slotChanges.find? k =
        ([(⟨5, .typed (.notify (.changeGameMode .creative))⟩ : TimedRecord),
          ⟨3, .raw .openWindow .null⟩].reverse.takeWhile fun r => !r.isMainSnapshot).find?
            fun r => r.mainSlot? == some k :=
  have hrec : ∀ r ∈ [(⟨5, .typed (.notify (.changeGameMode .creative))⟩ : TimedRecord),
      ⟨3, .raw .openWindow .null⟩], r.OfSessionOrWindow := by
    simp [TimedRecord.OfSessionOrWindow, Record.kind, Payload.kind, RecordKind.domain]
  ⟨hrec, session_window_synthesis_replays _ hrec {} 9⟩

end SessionSquash
