import SessionSquash.Proofs.Squash.Output

namespace SessionSquash

set_option autoImplicit false

/-- A notification that changes the game mode, the one notification the engine reads. -/
def Notification.changesGameMode : Notification → Bool
  | .changeGameMode _ => true
  | _ => false

/-- A payload the engine passes on unread: one of the other domain, or a notification that
changes no game mode. -/
def Payload.unread : Payload → Bool
  | .notify n => !n.changesGameMode
  | p => p.kind.domain == .other

namespace TimedRecord

/-- A record the engine passes on unread: an undecoded record of a kind it interprets or of
the other domain, or a payload passed on unread. -/
def unread (r : TimedRecord) : Bool :=
  match r.record with
  | .raw kind _ => decodedKinds.contains kind || kind.domain == .other
  | .typed p => p.unread

/-- An undecoded record the report counts as passed through: one of a kind the engine
interprets, or of the other domain. -/
def countedOpaque (r : TimedRecord) : Bool :=
  match r.record with
  | .raw kind _ => decodedKinds.contains kind || kind.domain == .other
  | .typed _ => false

@[simp] theorem unread_typed (time : Int64) (p : Payload) :
    unread ⟨time, .typed p⟩ = p.unread := rfl

@[simp] theorem countedOpaque_typed (time : Int64) (p : Payload) :
    countedOpaque ⟨time, .typed p⟩ = false := rfl

/-- An undecoded record is counted exactly when it is passed on unread. -/
theorem countedOpaque_raw (time : Int64) (kind : RecordKind) (data : Json) :
    countedOpaque ⟨time, .raw kind data⟩ = unread ⟨time, .raw kind data⟩ := rfl

end TimedRecord

/-- Every kind the engine leaves undecoded is of the world, a window or the other domain. -/
theorem domain_of_undecoded {k : RecordKind} (h : decodedKinds.contains k = false) :
    k.domain = .world ∨ k.domain = .window ∨ k.domain = .other := by
  revert h
  cases k <;> decide

namespace Payload

/-- A payload of neither the other domain nor the session is never passed on unread. -/
theorem unread_eq_false {p : Payload} (ho : p.kind.domain ≠ .other)
    (hs : p.kind.domain ≠ .session) : p.unread = false := by
  unfold unread
  split
  · exact absurd rfl hs
  · simpa using ho

/-- Every payload of the other domain is passed on unread. -/
theorem unread_of_other {p : Payload} (hd : p.kind.domain = .other) : p.unread = true := by
  unfold unread
  split
  · simp [kind, RecordKind.domain] at hd
  · simpa using hd

/-- The payloads of the session domain. -/
theorem session_cases {p : Payload} (hd : p.kind.domain = .session) :
    (∃ j, p = .join j) ∨ (∃ r, p = .respawn r) ∨ (∃ n, p = .notify n) ∨
      (∃ e, p = .experience e) ∨ (∃ a, p = .abilities a) ∨ ∃ m, p = .mapData m := by
  cases p <;> simp_all [kind, RecordKind.domain]

end Payload

namespace Squasher

/-- Two squashers with the same pass-through list and count. -/
def Keeps (s s' : Squasher) : Prop :=
  s'.unhandled = s.unhandled ∧ s'.report.passedThrough = s.report.passedThrough

/-- Taking in `rs` took `s` to `s'` on the pass-through list and its count: the records passed
on unread joined the list in order, and the count grew by the undecoded ones counted. -/
def PassesOn (s : Squasher) (rs : List TimedRecord) (s' : Squasher) : Prop :=
  s'.unhandled = s.unhandled ++ rs.filter TimedRecord.unread ∧
    s'.report.passedThrough =
      s.report.passedThrough + (rs.filter TimedRecord.countedOpaque).length

variable {s s' s'' : Squasher} {time : Int64} {rec : Record}

theorem Keeps.trans (h : Keeps s s') (h' : Keeps s' s'') : Keeps s s'' :=
  ⟨h'.1.trans h.1, h'.2.trans h.2⟩

/-- A record neither listed nor counted leaves both alone. -/
theorem Keeps.passesOn {r : TimedRecord} (h : Keeps s s') (hu : r.unread = false)
    (hc : r.countedOpaque = false) : PassesOn s [r] s' := by
  simp [PassesOn, h.1, h.2, hu, hc]

theorem PassesOn.of_keeps {rs : List TimedRecord} (h : Keeps s s') (h' : PassesOn s' rs s'') :
    PassesOn s rs s'' :=
  ⟨by rw [h'.1, h.1], by rw [h'.2, h.2]⟩

theorem PassesOn.trans {rs rs' : List TimedRecord} (h : PassesOn s rs s')
    (h' : PassesOn s' rs' s'') : PassesOn s (rs ++ rs') s'' := by
  refine ⟨by rw [h'.1, h.1, List.filter_append, List.append_assoc], ?_⟩
  rw [h'.2, h.2, List.filter_append, List.length_append, Nat.add_assoc]

theorem passesOn_passThrough (s : Squasher) (time : Int64) (rec : Record)
    (hu : TimedRecord.unread ⟨time, rec⟩ = true) :
    PassesOn s [⟨time, rec⟩] (s.passThrough time rec) := by
  refine ⟨by simp [passThrough, hu], ?_⟩
  cases rec with
  | typed p => simp [passThrough, Record.isRaw]
  | raw kind data => simp [passThrough, Record.isRaw, TimedRecord.countedOpaque_raw, hu]

theorem keeps_onWorld (s : Squasher) (time : Int64) (rec : Record) :
    Keeps s (s.onWorld time rec) := by
  unfold onWorld
  split <;> exact ⟨rfl, rfl⟩

theorem keeps_onWindow (s : Squasher) (time : Int64) (rec : Record) :
    Keeps s (s.onWindow time rec) := by
  have hother : Keeps s (if rec.kind == RecordKind.confirmTransaction &&
      s.config.dropTransactionConfirms then
      { s with report.confirmsDropped := s.report.confirmsDropped + 1 }
      else { s with windows := s.windows.onSecondary ⟨time, rec⟩ }) := by
    split <;> exact ⟨rfl, rfl⟩
  unfold onWindow
  dsimp only
  split
  · exact ⟨rfl, rfl⟩
  · split
    · exact ⟨rfl, rfl⟩
    · exact hother
  · split
    · exact ⟨rfl, rfl⟩
    · exact hother
  · exact hother

/-- A record of the entity domain names an entity, so it is never passed through. -/
theorem keeps_onEntity {p : Payload} (hd : p.kind.domain = .entity) :
    Keeps s (s.onEntity time (.typed p)) := by
  unfold onEntity
  split
  · next href => exact absurd href (entityRef_ne_none hd)
  · split <;> exact ⟨rfl, rfl⟩
  · split
    · exact ⟨rfl, rfl⟩
    · exact ⟨rfl, rfl⟩
    · split <;> exact ⟨rfl, rfl⟩
    · exact ⟨rfl, rfl⟩

theorem keeps_onBlock (s : Squasher) (time : Int64) (c : BlockChange) :
    Keeps s (s.onBlock time c) := by
  unfold onBlock
  dsimp only
  split <;> exact ⟨rfl, rfl⟩

theorem keeps_foldl_onBlock (time : Int64) :
    ∀ (cs : List BlockChange) (s : Squasher), Keeps s (cs.foldl (·.onBlock time ·) s)
  | [], _ => ⟨rfl, rfl⟩
  | c :: rest, s => (keeps_onBlock s time c).trans (keeps_foldl_onBlock time rest _)

theorem keeps_onChunk {p : Payload} (hd : p.kind.domain = .chunk) :
    Keeps s (s.onChunk time (.typed p)) := by
  unfold onChunk
  split
  · exact ⟨rfl, rfl⟩
  · exact ⟨rfl, rfl⟩
  · exact keeps_onBlock s time _
  · exact keeps_foldl_onBlock time _ s
  · exfalso
    cases p <;> simp_all [Payload.kind, RecordKind.domain]

/-- A session record the engine does not read is a notification that changes no game mode,
and is passed through. -/
theorem passesOn_onSession {p : Payload} (hd : p.kind.domain = .session) :
    PassesOn s [⟨time, .typed p⟩] (s.onSession time (.typed p)) := by
  unfold onSession
  split
  case h_7 hj hr hg he ha hm =>
    refine passesOn_passThrough s time _ ?_
    rcases Payload.session_cases hd with ⟨j, rfl⟩ | ⟨r, rfl⟩ | ⟨n, rfl⟩ | ⟨e, rfl⟩ | ⟨a, rfl⟩ |
      ⟨m, rfl⟩
    · exact (hj j rfl).elim
    · exact (hr r rfl).elim
    · cases n <;> first | rfl | exact (hg _ rfl).elim
    · exact (he e rfl).elim
    · exact (ha a rfl).elim
    · exact (hm m rfl).elim
  all_goals
    rename_i heq
    cases heq
    exact Keeps.passesOn ⟨rfl, rfl⟩ rfl rfl

end Squasher

namespace WindowTracker

/-- Every record a window tracker holds satisfies `Q`. -/
structure Holds (Q : TimedRecord → Prop) (w : WindowTracker) : Prop where
  current : ∀ r ∈ w.currentWindow, Q r
  closes : ∀ r ∈ w.closeRecords, Q r
  snapshot : ∀ r ∈ w.mainInventory, Q r
  slots : ∀ p ∈ w.slotChanges.entries, Q p.2

variable {Q : TimedRecord → Prop} {w : WindowTracker} {r : TimedRecord}

theorem holds_empty (Q : TimedRecord → Prop) : ({} : WindowTracker).Holds Q :=
  ⟨fun _ h => (by cases h), fun _ h => (by cases h), fun _ h => (by cases h),
    fun _ h => (by cases h)⟩

theorem Holds.onMainInventory (h : w.Holds Q) (hr : Q r) : (w.onMainInventory r).Holds Q :=
  { h with
    snapshot := fun x hx => Option.mem_some_iff.mp hx ▸ hr
    slots := fun _ hp => by cases hp }

theorem Holds.onMainSlot (h : w.Holds Q) (slot : Int16) (hr : Q r) :
    (w.onMainSlot slot r).Holds Q :=
  { h with
    slots := fun p hp => by
      rcases KeyMap.mem_entries_insert hp with rfl | hp
      · exact hr
      · exact h.slots p hp }

theorem Holds.onSecondary (h : w.Holds Q) (hr : Q r) : (w.onSecondary r).Holds Q :=
  { h with
    current := fun x hx => by
      rcases List.mem_append.mp hx with hx | hx
      · exact h.current x hx
      · exact List.mem_singleton.mp hx ▸ hr }

theorem Holds.onClose (h : w.Holds Q) (hr : Q r) : (w.onClose r).Holds Q :=
  { h with
    current := fun _ hx => by cases hx
    closes := fun x hx => by
      rcases List.mem_append.mp hx with hx | hx
      · exact h.closes x hx
      · exact List.mem_singleton.mp hx ▸ hr }

theorem Holds.clearCurrent (h : w.Holds Q) : w.clearCurrent.Holds Q :=
  { h with current := fun _ hx => by cases hx }

theorem Holds.mem_synthesize (h : w.Holds Q) (hr : r ∈ w.synthesize) : Q r := by
  simp only [synthesize, List.mem_append, Option.mem_toList] at hr
  rcases hr with ((hr | hr) | hr) | hr
  · exact h.current r hr
  · exact h.closes r hr
  · exact h.snapshot r hr
  · obtain ⟨p, hp, rfl⟩ := List.mem_map.mp hr
    exact h.slots p hp

end WindowTracker

namespace EntityTracker

open EntityState

/-- Every record an entity tracker queues, on one entity or shared, satisfies `Q`. -/
structure Holds (Q : TimedRecord → Prop) (t : EntityTracker) : Prop where
  own : ∀ p ∈ t.entities.entries, ∀ r ∈ ownRecords p.2.queue, Q r
  shared : ∀ sr, some sr ∈ t.shared → Q sr.record

variable {Q : TimedRecord → Prop} {t : EntityTracker} {r : TimedRecord}

theorem holds_empty (Q : TimedRecord → Prop) : ({} : EntityTracker).Holds Q :=
  ⟨fun _ h => (by cases h), fun _ h => (by cases h)⟩

theorem Holds.modify (h : t.Holds Q) (id : Int32) {f : EntityState → EntityState}
    (hf : ∀ st : EntityState, (∀ r ∈ ownRecords st.queue, Q r) →
      ∀ r ∈ ownRecords (f st).queue, Q r) : (t.modify id f).Holds Q := by
  refine ⟨fun p hp => ?_, h.shared⟩
  rcases KeyMap.mem_entries_alter hp with hp | hp | ⟨q, hq, hp⟩
  · exact h.own p hp
  · exact hp ▸ hf _ fun _ hx => by simp [ownRecords] at hx
  · exact hp ▸ hf _ (h.own q hq)

/-- A handler that queues `r` on an entity keeps every queued record in `Q`. -/
theorem Holds.push (h : t.Holds Q) (id : Int32) {f : EntityState → EntityState}
    (hf : ∀ st : EntityState, ownRecords (f st).queue = ownRecords st.queue ++ [r]) (hr : Q r) :
    (t.modify id f).Holds Q := by
  refine h.modify id fun st hst x hx => ?_
  rw [hf st, List.mem_append, List.mem_singleton] at hx
  rcases hx with hx | rfl
  · exact hst x hx
  · exact hr

theorem Holds.onSpawn (h : t.Holds Q) (id : Int32) (hr : Q r) : (t.onSpawn id r).Holds Q :=
  h.push id (fun _ => ownRecords_append_own _ _) hr

theorem Holds.onGeneric (h : t.Holds Q) (id : Int32) (hr : Q r) : (t.onGeneric id r).Holds Q :=
  h.push id (fun _ => ownRecords_append_own _ _) hr

theorem Holds.onMovement (h : t.Holds Q) (time : Int64) (m : Movement) :
    (t.onMovement time m).Holds Q := by
  obtain ⟨f, hf, heq⟩ :
      ∃ f, EntityState.Moves time f ∧ t.onMovement time m = t.modify m.entityId f :=
    moves_onMovement time m
  rw [heq]
  exact h.modify _ fun st hst => (hf st).1 ▸ hst

theorem Holds.onTeleport (h : t.Holds Q) (time : Int64) (tp : Teleport) :
    (t.onTeleport time tp).Holds Q :=
  h.modify _ fun _ hst => hst

theorem Holds.onDestroy (h : t.Holds Q) (ids : List Int32) : (t.onDestroy ids).Holds Q :=
  ⟨fun p hp => h.own p (KeyMap.mem_entries_foldl_erase hp), h.shared⟩

theorem Holds.onShared (h : t.Holds Q) (ids : List Int32) (hr : Q r) :
    (t.onShared ids r).Holds Q := by
  rw [onShared_eq]
  have hstart : ({ t with shared := t.shared ++ [some ⟨r, ids⟩] } : EntityTracker).Holds Q := by
    refine ⟨h.own, fun sr hsr => ?_⟩
    rcases List.mem_append.mp hsr with hsr | hsr
    · exact h.shared sr hsr
    · cases List.mem_singleton.mp hsr
      exact hr
  have hfold : ∀ (ids : List Int32) (u : EntityTracker), u.Holds Q →
      (ids.foldl (fun u id => u.modify id (shareStep t.shared.length)) u).Holds Q := by
    intro ids
    induction ids with
    | nil => exact fun _ hu => hu
    | cons id rest ih =>
      exact fun u hu => ih _ (hu.modify id fun st hst => by simpa using hst)
  exact hfold ids _ hstart

/-- What the tracker writes is a record it queued, or a move of an entity. -/
theorem Holds.mem_synthesize (h : t.Holds Q) (hr : r ∈ t.synthesize) :
    Q r ∨ ∃ p, r.record = .typed p ∧ p.kind.domain = .entity := by
  rw [synthesize_eq] at hr
  rcases mem_foldl_entityStep_source t _ _ hr with hr | ⟨sr, hsr, rfl⟩ | ⟨p, hp, hr | hr⟩
  · cases hr
  · exact .inl (h.shared sr hsr)
  · exact .inl (h.own p hp r hr)
  · right
    rw [motionRecords_eq] at hr
    simp only [List.mem_append, List.mem_map, Option.mem_toList] at hr
    rcases hr with (⟨_, -, rfl⟩ | ⟨_, -, rfl⟩) | ⟨_, -, rfl⟩ <;> exact ⟨_, rfl, rfl⟩

end EntityTracker

namespace Squasher

/-- Every record a squasher holds off its pass-through list satisfies `Q`: those of the current
world, of the window tracker, and those the entity tracker queues. -/
structure Holds (Q : TimedRecord → Prop) (s : Squasher) : Prop where
  currentWorld : ∀ r ∈ s.currentWorld, Q r
  windows : s.windows.Holds Q
  entities : s.entities.Holds Q

variable {Q : TimedRecord → Prop} {s : Squasher} {time : Int64} {rec : Record}

theorem holds_new (Q : TimedRecord → Prop) (config : SquashConfig) : (new config).Holds Q :=
  ⟨fun _ h => (by cases h), WindowTracker.holds_empty Q, EntityTracker.holds_empty Q⟩

theorem Holds.passThrough (h : s.Holds Q) : (s.passThrough time rec).Holds Q := ⟨h.1, h.2, h.3⟩

theorem Holds.onWorld (h : s.Holds Q) (hq : Q ⟨time, rec⟩) : (s.onWorld time rec).Holds Q := by
  unfold Squasher.onWorld
  split
  · exact ⟨h.1, h.2, h.3⟩
  · refine ⟨fun x hx => ?_, h.2, h.3⟩
    rcases List.mem_append.mp hx with hx | hx
    · exact h.1 x hx
    · exact List.mem_singleton.mp hx ▸ hq

theorem Holds.onWindow (h : s.Holds Q) (hq : Q ⟨time, rec⟩) : (s.onWindow time rec).Holds Q := by
  have hother : Holds Q (if rec.kind == RecordKind.confirmTransaction &&
      s.config.dropTransactionConfirms then
      { s with report.confirmsDropped := s.report.confirmsDropped + 1 }
      else { s with windows := s.windows.onSecondary ⟨time, rec⟩ }) := by
    split
    · exact ⟨h.1, h.2, h.3⟩
    · exact ⟨h.1, h.2.onSecondary hq, h.3⟩
  unfold Squasher.onWindow
  dsimp only
  split
  · exact ⟨h.1, h.2.onClose hq, h.3⟩
  · split
    · exact ⟨h.1, h.2.onMainInventory hq, h.3⟩
    · exact hother
  · split
    · exact ⟨h.1, h.2.onMainSlot _ hq, h.3⟩
    · exact hother
  · exact hother

theorem Holds.onEntity (h : s.Holds Q) (hq : Q ⟨time, rec⟩) : (s.onEntity time rec).Holds Q := by
  unfold Squasher.onEntity
  split
  · exact ⟨h.1, h.2, h.3⟩
  · split
    · refine ⟨fun x hx => ?_, h.2, h.3.onDestroy _⟩
      rcases List.mem_append.mp hx with hx | hx
      · exact h.1 x hx
      · exact List.mem_singleton.mp hx ▸ hq
    · exact ⟨h.1, h.2, h.3.onShared _ hq⟩
  · split
    · exact ⟨h.1, h.2, h.3.onMovement _ _⟩
    · exact ⟨h.1, h.2, h.3.onTeleport _ _⟩
    · split
      · exact ⟨h.1, h.2, h.3.onSpawn _ hq⟩
      · exact ⟨h.1, h.2, h.3.onGeneric _ hq⟩
    · exact ⟨h.1, h.2, h.3.onGeneric _ hq⟩

theorem Holds.onBlock (h : s.Holds Q) (c : BlockChange) : (s.onBlock time c).Holds Q := by
  unfold Squasher.onBlock
  dsimp only
  split <;> exact ⟨h.1, h.2, h.3⟩

theorem Holds.foldl_onBlock :
    ∀ (cs : List BlockChange) {s : Squasher}, s.Holds Q → (cs.foldl (·.onBlock time ·) s).Holds Q
  | [], _, h => h
  | c :: rest, _, h => Holds.foldl_onBlock rest (h.onBlock c)

/-- The chunk tracker holds no record. -/
theorem Holds.onChunk (h : s.Holds Q) : (s.onChunk time rec).Holds Q := by
  unfold Squasher.onChunk
  split
  · exact ⟨h.1, h.2, h.3⟩
  · exact ⟨h.1, h.2, h.3⟩
  · exact h.onBlock _
  · exact Holds.foldl_onBlock _ h
  · exact h.passThrough

/-- The session state holds no record, and a respawn empties the current world, the open
window and the entity tracker. -/
theorem Holds.onSession (h : s.Holds Q) : (s.onSession time rec).Holds Q := by
  unfold Squasher.onSession
  split
  · exact ⟨h.1, h.2, h.3⟩
  · exact ⟨fun _ hx => (by cases hx), h.2.clearCurrent, EntityTracker.holds_empty Q⟩
  · exact ⟨h.1, h.2, h.3⟩
  · exact ⟨h.1, h.2, h.3⟩
  · exact ⟨h.1, h.2, h.3⟩
  · exact ⟨h.1, h.2, h.3⟩
  · exact h.passThrough

/-- An undecoded record of a kind the engine does not interpret and not of the other domain is
never passed on unread. -/
theorem unread_raw_eq_false {kind : RecordKind} (hk : decodedKinds.contains kind = false)
    (ho : kind.domain ≠ .other) (time : Int64) (data : Json) :
    TimedRecord.unread ⟨time, .raw kind data⟩ = false := by
  show (decodedKinds.contains kind || kind.domain == .other) = false
  rw [hk]
  simpa using ho

/-- Taking in a record lists it if it is passed on unread, and counts it if it is undecoded and
counted. -/
theorem passesOn_consume (s : Squasher) (r : TimedRecord) : PassesOn s [r] (s.consume r) := by
  obtain ⟨time, rec⟩ := r
  have hb : Keeps s
      { s with lastTime := time, report.recordsConsumed := s.report.recordsConsumed + 1 } :=
    ⟨rfl, rfl⟩
  unfold Squasher.consume
  cases rec with
  | raw kind data =>
    dsimp only
    split
    · next hk =>
      have hu : TimedRecord.unread ⟨time, .raw kind data⟩ = true := by
        simp only [TimedRecord.unread, hk, Bool.true_or]
      exact ⟨by simp [note, hu], by simp [note, TimedRecord.countedOpaque_raw, hu]⟩
    · next hk =>
      have hk' := Bool.eq_false_iff.mpr hk
      split
      · next hd =>
        have hu := unread_raw_eq_false hk' (by rw [hd]; decide) time data
        exact (hb.trans (keeps_onWorld _ _ _)).passesOn hu
          ((TimedRecord.countedOpaque_raw _ _ _).trans hu)
      · next hd =>
        have hu := unread_raw_eq_false hk' (by rw [hd]; decide) time data
        exact (hb.trans (keeps_onWindow _ _ _)).passesOn hu
          ((TimedRecord.countedOpaque_raw _ _ _).trans hu)
      · next hw hwin =>
        have ho : kind.domain = .other :=
          (domain_of_undecoded hk').resolve_left hw |>.resolve_left hwin
        exact PassesOn.of_keeps hb
          (passesOn_passThrough _ time _ (by simp [TimedRecord.unread, ho]))
  | typed p =>
    dsimp only
    have hnot : ∀ d : Domain, p.kind.domain = d → d ≠ .other → d ≠ .session →
        TimedRecord.unread ⟨time, .typed p⟩ = false := fun d hd ho hs =>
      Payload.unread_eq_false (hd ▸ ho) (hd ▸ hs)
    split
    · next hd =>
      exact (hb.trans (keeps_onEntity hd)).passesOn (hnot _ hd nofun nofun) rfl
    · next hd => exact (hb.trans (keeps_onChunk hd)).passesOn (hnot _ hd nofun nofun) rfl
    · next hd =>
      exact (hb.trans (keeps_onWorld _ _ _)).passesOn (hnot _ hd nofun nofun) rfl
    · next hd =>
      exact (hb.trans (keeps_onWindow _ _ _)).passesOn (hnot _ hd nofun nofun) rfl
    · next hd =>
      split
      · exact (hb.trans ⟨rfl, rfl⟩).passesOn (hnot _ hd nofun nofun) rfl
      · exfalso
        cases p <;> simp_all [Payload.kind, RecordKind.domain]
    · next hd => exact PassesOn.of_keeps hb (passesOn_onSession hd)
    · next hd =>
      exact PassesOn.of_keeps hb (passesOn_passThrough _ time _ (Payload.unread_of_other hd))

/-- Over a whole pass, the records passed on unread join the list in order, and the count
grows by the undecoded ones counted. -/
theorem passesOn_consumeAll : ∀ (records : List TimedRecord) (s : Squasher),
    PassesOn s records (s.consumeAll records)
  | [], _ => ⟨by simp [consumeAll], by simp [consumeAll]⟩
  | r :: rest, s => (passesOn_consume s r).trans (passesOn_consumeAll rest (s.consume r))

/-- Taking in a record keeps `Q` of every record held, if `Q` holds of the record whenever it
is not passed on unread: the trackers keep only records the engine reads. -/
theorem Holds.consume (h : s.Holds Q) (r : TimedRecord) (hq : r.unread = false → Q r) :
    (s.consume r).Holds Q := by
  obtain ⟨time, rec⟩ := r
  have hb : Holds Q
      { s with lastTime := time, report.recordsConsumed := s.report.recordsConsumed + 1 } :=
    ⟨h.1, h.2, h.3⟩
  unfold Squasher.consume
  cases rec with
  | raw kind data =>
    dsimp only
    split
    · exact ⟨h.1, h.2, h.3⟩
    · next hk =>
      have hk' := Bool.eq_false_iff.mpr hk
      split
      · next hd => exact hb.onWorld (hq (unread_raw_eq_false hk' (by rw [hd]; decide) time data))
      · next hd => exact hb.onWindow (hq (unread_raw_eq_false hk' (by rw [hd]; decide) time data))
      · exact hb.passThrough
  | typed p =>
    dsimp only
    have hnot : ∀ d : Domain, p.kind.domain = d → d ≠ .other → d ≠ .session →
        Q ⟨time, .typed p⟩ := fun d hd ho hs =>
      hq (Payload.unread_eq_false (hd ▸ ho) (hd ▸ hs))
    split
    · next hd => exact hb.onEntity (hnot _ hd nofun nofun)
    · exact hb.onChunk
    · next hd => exact hb.onWorld (hnot _ hd nofun nofun)
    · next hd => exact hb.onWindow (hnot _ hd nofun nofun)
    · split
      · exact ⟨h.1, h.2, h.3⟩
      · exact hb.passThrough
    · exact hb.onSession
    · exact hb.passThrough

theorem Holds.consumeAll : ∀ (records : List TimedRecord) {s : Squasher}, s.Holds Q →
    (∀ r ∈ records, r.unread = false → Q r) → (s.consumeAll records).Holds Q
  | [], _, h, _ => h
  | r :: rest, _, h, hq =>
    Holds.consumeAll rest (h.consume r (hq r List.mem_cons_self))
      fun x hx => hq x (List.mem_cons_of_mem _ hx)

end Squasher

/-- A record of neither the other domain nor the session is read by the engine. -/
theorem TimedRecord.unread_of_domain {r : TimedRecord} {p : Payload} (hr : r.record = .typed p)
    (ho : p.kind.domain ≠ .other) (hs : p.kind.domain ≠ .session) : r.unread = false := by
  obtain ⟨time, rec⟩ := r
  cases hr
  exact Payload.unread_eq_false ho hs

namespace SessionState

/-- The session state writes a join, a respawn, a game mode, experience and abilities; none is
passed on unread. -/
theorem unread_of_mem_synthesizeSession {s : SessionState} {lastTime : Int64} {r : TimedRecord}
    (hr : r ∈ s.synthesizeSession lastTime) : r.unread = false := by
  unfold synthesizeSession at hr
  simp only [List.mem_append, List.mem_map, Option.mem_toList] at hr
  rcases hr with (hr | ⟨_, -, rfl⟩) | ⟨_, -, rfl⟩
  · split at hr <;> simp_all [Payload.unread, Notification.changesGameMode, Payload.kind,
      RecordKind.domain]
  all_goals rfl

theorem unread_of_mem_synthesizeMaps {s : SessionState} {time : Int64} {r : TimedRecord}
    (hr : r ∈ s.synthesizeMaps time) : r.unread = false := by
  obtain ⟨m, hm⟩ := (mem_synthesizeMaps hr).2
  obtain ⟨_, rec⟩ := r
  cases hm
  rfl

end SessionState

theorem TeamTracker.unread_of_mem_synthesize {t : TeamTracker} {time : Int64} {r : TimedRecord}
    (hr : r ∈ t.synthesize time) : r.unread = false := by
  obtain ⟨-, d, hd⟩ := mem_synthesize hr
  exact TimedRecord.unread_of_domain hd nofun nofun

/-- The chunk tracker writes unloads, columns and block changes. -/
theorem ChunkTracker.unread_of_mem_synthesize {t : ChunkTracker} {r : TimedRecord}
    (hr : r ∈ t.synthesize) : r.unread = false := by
  rw [synthesize_eq] at hr
  simp only [List.mem_append, List.mem_map, List.mem_flatMap, columnRecords, List.mem_cons]
    at hr
  rcases hr with ⟨e, -, rfl⟩ | ⟨c, -, rfl | ⟨b, -, rfl⟩⟩
  · rfl
  · rfl
  · rfl

namespace Squasher

/-- What a squasher holding only read records flushes: its pass-through list, and records the
engine reads. -/
theorem filter_unread_finish {s : Squasher} (h : s.Holds fun r => r.unread = false)
    (endTime : Int64) :
    ((s.finish endTime).1.filter TimedRecord.unread).Perm
      (s.unhandled.filter TimedRecord.unread) := by
  have hnone : ∀ l : List TimedRecord, (∀ r ∈ l, r.unread = false) →
      l.filter TimedRecord.unread = [] := fun _ hl =>
    List.filter_eq_nil_iff.mpr fun r hr => by simp [hl r hr]
  have hworld := hnone _ h.currentWorld
  have hwin := hnone _ fun _ hr => h.windows.mem_synthesize hr
  have hsession := hnone (s.session.synthesizeSession s.lastTime) fun _ hr =>
    SessionState.unread_of_mem_synthesizeSession hr
  have hent := hnone _ fun _ hr => (h.entities.mem_synthesize hr).elim id
    fun ⟨_, hp, hd⟩ => TimedRecord.unread_of_domain hp (by rw [hd]; decide) (by rw [hd]; decide)
  have hchunk := hnone s.chunks.synthesize fun _ hr => ChunkTracker.unread_of_mem_synthesize hr
  have hteam := hnone (s.teams.synthesize endTime) fun _ hr =>
    TeamTracker.unread_of_mem_synthesize hr
  have hmaps := hnone (s.session.synthesizeMaps endTime) fun _ hr =>
    SessionState.unread_of_mem_synthesizeMaps hr
  rw [finish_fst, List.filter_append, List.filter_append, hteam, hmaps, List.append_nil,
    List.append_nil]
  refine ((List.mergeSort_perm _ _).filter _).trans ?_
  simp only [body, List.filter_append, hworld, hwin, hsession, hent, hchunk, List.append_nil]
  exact List.Perm.refl _

end Squasher

/-- The records passed on unread come out of a pass each as often as they went in, with their
times and payloads, whatever follows them; and the report counts exactly the undecoded records
of a kind the engine interprets or of the other domain. -/
theorem squash_passes_on_unread (records : List TimedRecord) (endTime : Int64)
    (config : SquashConfig) :
    ((squash records endTime config).1.filter TimedRecord.unread).Perm
        (records.filter TimedRecord.unread) ∧
      (squash records endTime config).2.passedThrough =
        (records.filter TimedRecord.countedOpaque).length := by
  obtain ⟨hlist, hcount⟩ := Squasher.passesOn_consumeAll records (Squasher.new config)
  have hholds := Squasher.Holds.consumeAll records (Squasher.holds_new _ config)
    fun _ _ hu => hu
  refine ⟨(Squasher.filter_unread_finish hholds endTime).trans ?_, ?_⟩
  · rw [hlist]
    simp [Squasher.new, List.filter_filter]
  · calc (squash records endTime config).2.passedThrough
        = ((Squasher.new config).consumeAll records).report.passedThrough := rfl
      _ = (records.filter TimedRecord.countedOpaque).length := by
        rw [hcount]
        simp [Squasher.new]

end SessionSquash
