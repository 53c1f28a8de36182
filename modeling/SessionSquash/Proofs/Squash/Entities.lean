import Mathlib
import SessionSquash.Squash.Entity
import SessionSquash.Proofs.Replay.Sort

namespace SessionSquash

set_option autoImplicit false

theorem toFixed_fromFixed_table :
    ∀ i : Fin 256, toFixed (fromFixed ((i.val : Int) - 128)) = Int64.ofInt ((i.val : Int) - 128) := by
  decide +kernel

/-- A step a movement record can carry survives the trip through its double. -/
theorem toFixed_fromFixed {s : Int} (h₁ : -128 ≤ s) (h₂ : s ≤ 127) :
    toFixed (fromFixed s) = Int64.ofInt s := by
  have hs : ((⟨(s + 128).toNat, by omega⟩ : Fin 256).val : Int) - 128 = s := by
    simp only; omega
  have := toFixed_fromFixed_table ⟨(s + 128).toNat, by omega⟩
  rwa [hs] at this

theorem clampStep_bounds (d : Int) : -128 ≤ clampStep d ∧ clampStep d ≤ 127 := by
  unfold clampStep; omega

/-- Every drained step fits a movement record on each axis. -/
theorem mem_drainSteps_bounds {d s : Int × Int × Int} (h : s ∈ drainSteps d) :
    (-128 ≤ s.1 ∧ s.1 ≤ 127) ∧ (-128 ≤ s.2.1 ∧ s.2.1 ≤ 127) ∧ (-128 ≤ s.2.2 ∧ s.2.2 ≤ 127) := by
  fun_induction drainSteps d with
  | case1 => simp at h
  | case2 d hne step ih =>
    rcases List.mem_cons.mp h with rfl | h
    · exact ⟨clampStep_bounds _, clampStep_bounds _, clampStep_bounds _⟩
    · exact ih h

/-- The drained steps add up to the delta, on each axis. -/
theorem sum_drainSteps (d : Int × Int × Int) :
    ((drainSteps d).map (·.1)).sum = d.1 ∧ ((drainSteps d).map (·.2.1)).sum = d.2.1 ∧
      ((drainSteps d).map (·.2.2)).sum = d.2.2 := by
  fun_induction drainSteps d with
  | case1 d h => simp [h.1, h.2.1, h.2.2]
  | case2 d hne step ih =>
    simp only at ih
    simp only [List.map_cons, List.sum_cons]
    omega

namespace EntityState

/-- The records of a queue the entity holds alone, in order. -/
def ownRecords (queue : List Queued) : List TimedRecord :=
  queue.filterMap fun
    | .own r => some r
    | .shared _ => none

/-- The view a record brings its entity in with, if it is a spawn. -/
def spawnView? (r : TimedRecord) : Option EntityView :=
  match r.record with
  | .typed p => (ReplayView.spawned p).map (·.2)
  | .raw .. => none

/-- The view the last spawn of a queue brings. -/
def lastSpawn (queue : List Queued) : Option EntityView :=
  ((ownRecords queue).filterMap spawnView?).getLast?

/-- Where the motion gathered since the last spawn or teleport leaves a view. -/
def withMotion (st : EntityState) (base : EntityView) : EntityView :=
  let base := match st.placement with
    | some p => EntityView.ofLocation p.location
    | none => base
  { position := (base.position.1 + st.delta.1, base.position.2.1 + st.delta.2.1,
      base.position.2.2 + st.delta.2.2)
    orientation := match st.orientation with
      | some (yaw, pitch) => (yaw.bits, pitch.bits)
      | none => base.orientation }

/-- What a viewer sees of a tracked entity: nothing before its spawn. -/
def view? (st : EntityState) : Option EntityView := (lastSpawn st.queue).map st.withMotion

@[simp] theorem ownRecords_append_own (queue : List Queued) (r : TimedRecord) :
    ownRecords (queue ++ [.own r]) = ownRecords queue ++ [r] := by
  simp [ownRecords]

@[simp] theorem ownRecords_append_shared (queue : List Queued) (slot : Nat) :
    ownRecords (queue ++ [.shared slot]) = ownRecords queue := by
  simp [ownRecords]

theorem lastSpawn_append_own (queue : List Queued) (r : TimedRecord) :
    lastSpawn (queue ++ [.own r]) =
      match spawnView? r with
      | some e => some e
      | none => lastSpawn queue := by
  unfold lastSpawn
  rw [ownRecords_append_own, List.filterMap_append]
  cases h : spawnView? r <;> simp [h]

theorem view?_empty : ({} : EntityState).view? = none := rfl

/-- With no motion gathered, a view stays where its spawn put it. -/
theorem withMotion_of_still {st : EntityState} (h₁ : st.placement = none)
    (h₂ : st.delta = (0, 0, 0)) (h₃ : st.orientation = none) (base : EntityView) :
    st.withMotion base = base := by
  simp [withMotion, h₁, h₂, h₃]

end EntityState

namespace EntityTracker

/-- The live entities a tracker stands for. -/
def view (t : EntityTracker) : KeyMap Int32 EntityView := t.entities.filterMapValues EntityState.view?

/-- A handler that rewrites one tracked entity rewrites its view by the matching change. -/
theorem view_modify {t : EntityTracker} (ht : t.entities.Sorted) (id : Int32)
    (f : EntityState → EntityState) (F : Option EntityView → Option EntityView)
    (hf : ∀ st, (f st).view? = F st.view?) : (t.modify id f).view = t.view.update id F := by
  have halter : t.entities.alter id {} f =
      t.entities.update id fun o => some (f (o.getD {})) := rfl
  simp only [view, modify, halter]
  rw [KeyMap.filterMapValues_update ht]
  have hfind : (t.entities.filterMapValues EntityState.view?).find? id =
      (t.entities.find? id).bind EntityState.view? := KeyMap.find?_filterMapValues ht _ _
  unfold KeyMap.update
  rw [hfind]
  cases t.entities.find? id <;> simp [hf, EntityState.view?_empty]

theorem view_onSpawn {t : EntityTracker} (ht : t.entities.Sorted) (id : Int32) {r : TimedRecord}
    {ev : EntityView} (hr : EntityState.spawnView? r = some ev) :
    (t.onSpawn id r).view = t.view.update id fun _ => some ev := by
  apply view_modify ht
  intro st
  simp only [EntityState.view?, EntityState.lastSpawn_append_own, hr, Option.map_some]
  rw [EntityState.withMotion_of_still] <;> rfl

theorem view_onGeneric {t : EntityTracker} (ht : t.entities.Sorted) (id : Int32)
    {r : TimedRecord} (hr : EntityState.spawnView? r = none) : (t.onGeneric id r).view = t.view := by
  unfold onGeneric
  rw [view_modify ht id _ fun o => o]
  · exact KeyMap.update_of_eq (ht.filterMapValues _) rfl
  · intro st
    simp only [EntityState.view?, EntityState.lastSpawn_append_own, hr]
    rfl

theorem view_onMovement {t : EntityTracker} (ht : t.entities.Sorted) (time : Int64) (m : Movement) :
    (t.onMovement time m).view = t.view.update m.entityId (Option.map (·.moved m)) := by
  apply view_modify ht
  intro st
  cases hp : m.kind.carriesPosition <;> cases hr : m.kind.carriesRotation <;>
    simp only [EntityState.view?, Option.map_map, Bool.false_eq_true, if_true, if_false] <;>
    congr 1 <;> funext base <;>
    simp [EntityState.withMotion, EntityView.moved, hp, hr, Int64.add_assoc]

theorem view_onTeleport {t : EntityTracker} (ht : t.entities.Sorted) (time : Int64)
    (tp : Teleport) :
    (t.onTeleport time tp).view =
      t.view.update tp.entityId (Option.map fun _ => EntityView.ofLocation tp.location) := by
  apply view_modify ht
  intro st
  simp only [EntityState.view?, Option.map_map]
  congr 1
  funext base
  simp [EntityState.withMotion, EntityState.resetMotion]

theorem sorted_modify {t : EntityTracker} (ht : t.entities.Sorted) (id : Int32)
    (f : EntityState → EntityState) : (t.modify id f).entities.Sorted :=
  ht.alter id {} f

theorem view_onShared {t : EntityTracker} (ht : t.entities.Sorted) (ids : List Int32)
    (r : TimedRecord) : (t.onShared ids r).view = t.view := by
  unfold onShared
  have hstep : ∀ (u : EntityTracker), u.entities.Sorted → ∀ (slot : Nat) (id : Int32),
      (u.modify id fun e => if e.endsWith slot then e
        else { e with queue := e.queue ++ [.shared slot] }).view = u.view := by
    intro u hu slot id
    rw [view_modify hu id _ fun o => o]
    · exact KeyMap.update_of_eq (hu.filterMapValues _) rfl
    · intro st
      split
      · rfl
      · simp only [EntityState.view?, EntityState.lastSpawn,
          EntityState.ownRecords_append_shared]
        rfl
  have hfold : ∀ (slot : Nat) (ids : List Int32) (u : EntityTracker), u.entities.Sorted →
      (ids.foldl (fun u id => u.modify id fun e => if e.endsWith slot then e
        else { e with queue := e.queue ++ [.shared slot] }) u).view = u.view := by
    intro slot ids
    induction ids with
    | nil => exact fun _ _ => rfl
    | cons id rest ih =>
      intro u hu
      rw [List.foldl_cons, ih _ (sorted_modify hu id _), hstep u hu slot id]
  exact hfold _ ids _ ht

theorem view_onDestroy {t : EntityTracker} (ht : t.entities.Sorted) (ids : List Int32) :
    (t.onDestroy ids).view = ids.foldl KeyMap.erase t.view := by
  simp only [view, onDestroy]
  induction ids generalizing t with
  | nil => rfl
  | cons id rest ih =>
    simp only [List.foldl_cons]
    have h := ih (t := { t with entities := t.entities.erase id }) (ht.erase id)
    simp only at h
    rw [h, KeyMap.erase_eq_update, KeyMap.filterMapValues_update ht]
    rfl

end EntityTracker

namespace EntityState

/-- A record of entity `e`'s own queue: a spawn of it, or a record that changes nothing. -/
def OwnRecord (e : Int32) (r : TimedRecord) : Prop :=
  ReplayView.change r = match spawnView? r with
    | some ev => { entities := .at e fun _ => some ev }
    | none => {}

theorem getLast?_filterMap_cons {α β : Type} (f : α → Option β) (a : α) (l : List α)
    (o : Option β) :
    ((a :: l).filterMap f).getLast?.or o = (l.filterMap f).getLast?.or ((f a).or o) := by
  cases hf : f a with
  | none => simp [hf]
  | some b =>
    simp only [List.filterMap_cons, hf, List.getLast?_cons]
    cases (l.filterMap f).getLast? <;> rfl

/-- Replaying an entity's own records leaves it as its last spawn brought it. -/
theorem foldl_apply_own {e : Int32} :
    ∀ (rs : List TimedRecord), (∀ r ∈ rs, OwnRecord e r) → ∀ {v : ReplayView}, v.WF →
      rs.foldl ReplayView.apply v =
        { v with entities := v.entities.update e fun o => (rs.filterMap spawnView?).getLast?.or o }
  | [], _, v, hv => by
    simp only [List.foldl_nil, List.filterMap_nil, List.getLast?_nil, Option.none_or]
    rw [KeyMap.update_of_eq hv.entities rfl]
  | r :: rs, hrs, v, hv => by
    have hr := hrs r List.mem_cons_self
    have hstep : v.apply r =
        { v with entities := v.entities.update e fun o => (spawnView? r).or o } := by
      unfold OwnRecord at hr
      cases hs : spawnView? r with
      | some ev =>
        rw [hs] at hr
        exact ReplayView.apply_of_change_at hr hv
      | none =>
        rw [hs] at hr
        rw [ReplayView.apply_of_inert hr hv, KeyMap.update_of_eq hv.entities (by simp)]
    rw [List.foldl_cons, foldl_apply_own rs (fun x hx => hrs x (List.mem_cons_of_mem r hx))
      (hv.apply r), hstep]
    simp only [KeyMap.update_update hv.entities]
    congr 2
    funext o
    exact (getLast?_filterMap_cons spawnView? r rs o).symm

/-- What replaying one motion record does to the view of its entity. -/
def motionStep (r : TimedRecord) (b : EntityView) : EntityView :=
  match r.record with
  | .typed (.teleport d) => EntityView.ofLocation d.location
  | .typed (.movement m) => b.moved m
  | _ => b

/-- Records that each rewrite the view of entity `e`, if it is live, replay as their
composite. -/
theorem foldl_apply_motion {e : Int32} :
    ∀ (rs : List TimedRecord),
      (∀ r ∈ rs, ReplayView.change r = { entities := .at e (Option.map (motionStep r)) }) →
      ∀ {v : ReplayView}, v.WF →
        rs.foldl ReplayView.apply v =
          { v with
            entities := v.entities.update e
              (Option.map fun b => rs.foldl (fun b r => motionStep r b) b) }
  | [], _, v, hv => by
    simp only [List.foldl_nil]
    rw [KeyMap.update_of_eq hv.entities (by simp)]
  | r :: rs, hrs, v, hv => by
    have hstep := ReplayView.apply_of_change_at (hrs r List.mem_cons_self) hv
    have hv' := hv.apply r
    rw [hstep] at hv'
    rw [List.foldl_cons, hstep,
      foldl_apply_motion rs (fun x hx => hrs x (List.mem_cons_of_mem r hx)) hv']
    simp only [KeyMap.update_update hv.entities, List.foldl_cons]
    congr 2
    funext o
    cases o <;> rfl

/-- The position step a drained move record carries. -/
def stepRecord (time : Int64) (id : Int32) (step : Int × Int × Int) : TimedRecord :=
  movementRecord time ⟨id, .position, fromFixed step.1, fromFixed step.2.1, fromFixed step.2.2,
    Binary32.zero, Binary32.zero, false⟩

/-- Drained moves shift a view by the sum of their steps. -/
theorem foldl_motionStep_steps (time : Int64) (id : Int32) :
    ∀ (steps : List (Int × Int × Int)),
      (∀ s ∈ steps, (-128 ≤ s.1 ∧ s.1 ≤ 127) ∧ (-128 ≤ s.2.1 ∧ s.2.1 ≤ 127) ∧
        (-128 ≤ s.2.2 ∧ s.2.2 ≤ 127)) →
      ∀ b : EntityView, (steps.map (stepRecord time id)).foldl (fun b r => motionStep r b) b =
        { b with position := (b.position.1 + Int64.ofInt (steps.map (·.1)).sum,
            b.position.2.1 + Int64.ofInt (steps.map (·.2.1)).sum,
            b.position.2.2 + Int64.ofInt (steps.map (·.2.2)).sum) }
  | [], _, b => by simp
  | s :: rest, hs, b => by
    obtain ⟨⟨hx₁, hx₂⟩, ⟨hy₁, hy₂⟩, ⟨hz₁, hz₂⟩⟩ := hs s List.mem_cons_self
    rw [List.map_cons, List.foldl_cons,
      foldl_motionStep_steps time id rest (fun x hx => hs x (List.mem_cons_of_mem s hx))]
    simp [motionStep, stepRecord, movementRecord, EntityView.moved, MovementKind.carriesPosition,
      MovementKind.carriesRotation, toFixed_fromFixed hx₁ hx₂, toFixed_fromFixed hy₁ hy₂,
      toFixed_fromFixed hz₁ hz₂, Int64.add_assoc]

theorem motionRecords_eq (st : EntityState) (id : Int32) :
    st.motionRecords id =
      st.placement.toList.map (fun p =>
        (⟨st.lastTimestamp, .typed (.teleport ⟨id, p.location, p.onGround⟩)⟩ : TimedRecord)) ++
      (drainSteps (st.delta.1.toInt, st.delta.2.1.toInt, st.delta.2.2.toInt)).map
        (stepRecord st.lastTimestamp id) ++
      st.orientation.toList.map (fun o => movementRecord st.lastTimestamp
        ⟨id, .rotation, Binary64.zero, Binary64.zero, Binary64.zero, o.1, o.2, false⟩) :=
  rfl

/-- The motion records of an entity replay as its gathered motion. -/
theorem foldl_motionStep_motionRecords (st : EntityState) (id : Int32) (b : EntityView) :
    (st.motionRecords id).foldl (fun b r => motionStep r b) b = st.withMotion b := by
  have hmoves := foldl_motionStep_steps st.lastTimestamp id
    (drainSteps (st.delta.1.toInt, st.delta.2.1.toInt, st.delta.2.2.toInt))
    (fun s hs => mem_drainSteps_bounds hs)
  obtain ⟨hsx, hsy, hsz⟩ := sum_drainSteps (st.delta.1.toInt, st.delta.2.1.toInt, st.delta.2.2.toInt)
  rw [motionRecords_eq, List.foldl_append, List.foldl_append, hmoves]
  simp only [hsx, hsy, hsz, Int64.ofInt_toInt]
  cases hp : st.placement <;> cases ho : st.orientation <;>
    simp [withMotion, motionStep, movementRecord, EntityView.moved, hp, ho,
      MovementKind.carriesPosition, MovementKind.carriesRotation]

theorem change_of_mem_motionRecords {st : EntityState} {id : Int32} {r : TimedRecord}
    (h : r ∈ st.motionRecords id) :
    ReplayView.change r = { entities := .at id (Option.map (motionStep r)) } := by
  rw [motionRecords_eq] at h
  simp only [List.mem_append, List.mem_map, Option.mem_toList] at h
  rcases h with (⟨p, -, rfl⟩ | ⟨s, -, rfl⟩) | ⟨o, -, rfl⟩ <;> rfl

/-- One record of a queue replayed: an own record is written; a shared one is written by the
first entity that reaches its slot, and only if every entity it names is still tracked. -/
def queueStep (t : EntityTracker) (acc : List (Option SharedRecord) × List TimedRecord)
    (q : Queued) : List (Option SharedRecord) × List TimedRecord :=
  match acc with
  | (slots, out) =>
    match q with
    | .own r => (slots, out ++ [r])
    | .shared i =>
      match slots[i]? with
      | some (some s) =>
        (slots.set i none, if s.ids.all t.entities.contains then out ++ [s.record] else out)
      | _ => (slots, out)

end EntityState

namespace EntityTracker

/-- One entity's records: its queue, then its motion. -/
def entityStep (t : EntityTracker) (acc : List (Option SharedRecord) × List TimedRecord)
    (entry : Int32 × EntityState) : List (Option SharedRecord) × List TimedRecord :=
  ((entry.2.queue.foldl (EntityState.queueStep t) (acc.1, [])).1,
    acc.2 ++ (entry.2.queue.foldl (EntityState.queueStep t) (acc.1, [])).2 ++
      entry.2.motionRecords entry.1)

theorem synthesize_eq (t : EntityTracker) :
    t.synthesize = (t.entities.entries.foldl t.entityStep (t.shared, [])).2 := rfl

end EntityTracker

/-- Every shared record still waiting changes nothing a viewer sees. -/
def SlotsInert (slots : List (Option SharedRecord)) : Prop :=
  ∀ o ∈ slots, ∀ sr : SharedRecord, o = some sr → ReplayView.Inert sr.record

theorem SlotsInert.set {slots : List (Option SharedRecord)} (h : SlotsInert slots) (i : Nat) :
    SlotsInert (slots.set i none) := by
  intro o ho sr hsr
  rcases List.mem_or_eq_of_mem_set ho with ho | rfl
  · exact h o ho sr hsr
  · cases hsr

/-- A shared record that changes nothing may wait in a new slot. -/
theorem SlotsInert.push {slots : List (Option SharedRecord)} (h : SlotsInert slots)
    {sr : SharedRecord} (hr : ReplayView.Inert sr.record) : SlotsInert (slots ++ [some sr]) := by
  intro o ho sr' hsr
  rcases List.mem_append.mp ho with ho | ho
  · exact h o ho sr' hsr
  · rw [List.mem_singleton.mp ho] at hsr
    cases hsr
    exact hr

theorem SlotsInert.get {slots : List (Option SharedRecord)} (h : SlotsInert slots) {i : Nat}
    {sr : SharedRecord} (hi : slots[i]? = some (some sr)) : ReplayView.Inert sr.record :=
  h _ (List.mem_of_getElem? hi) sr rfl

theorem foldl_apply_append_inert {x : TimedRecord} (hx : ReplayView.Inert x)
    (A B : List TimedRecord) {v : ReplayView} (hv : v.WF) :
    (A ++ x :: B).foldl ReplayView.apply v = (A ++ B).foldl ReplayView.apply v := by
  rw [List.foldl_append, List.foldl_cons, ReplayView.apply_of_inert hx (hv.foldl A),
    ← List.foldl_append]

namespace EntityState

variable (t : EntityTracker)

@[simp] theorem ownRecords_cons_own (r : TimedRecord) (rest : List Queued) :
    ownRecords (.own r :: rest) = r :: ownRecords rest := rfl

@[simp] theorem ownRecords_cons_shared (i : Nat) (rest : List Queued) :
    ownRecords (.shared i :: rest) = ownRecords rest := rfl

theorem slotsInert_foldl_queueStep :
    ∀ (queue : List Queued) {slots : List (Option SharedRecord)} (out : List TimedRecord),
      SlotsInert slots → SlotsInert (queue.foldl (queueStep t) (slots, out)).1
  | [], _, _, h => h
  | .own _ :: rest, _, _, h => slotsInert_foldl_queueStep rest _ h
  | .shared i :: rest, slots, out, h => by
    simp only [List.foldl_cons, queueStep]
    split
    · exact slotsInert_foldl_queueStep rest _ (h.set i)
    · exact slotsInert_foldl_queueStep rest _ h

/-- Replaying a queue only empties slots. -/
theorem slots_foldl_queueStep :
    ∀ (queue : List Queued) {slots : List (Option SharedRecord)} (out : List TimedRecord)
      {sr : SharedRecord}, some sr ∈ (queue.foldl (queueStep t) (slots, out)).1 → some sr ∈ slots
  | [], _, _, _, h => h
  | .own _ :: rest, _, _, _, h => slots_foldl_queueStep rest _ h
  | .shared i :: rest, slots, out, sr, h => by
    simp only [List.foldl_cons, queueStep] at h
    split at h
    · rcases List.mem_or_eq_of_mem_set (slots_foldl_queueStep rest _ h) with h | h
      · exact h
      · cases h
    · exact slots_foldl_queueStep rest _ h

/-- What replaying a queue writes: what was written before, a record a slot held, or one of
its own records. -/
theorem mem_foldl_queueStep_source :
    ∀ (queue : List Queued) {slots : List (Option SharedRecord)} {out : List TimedRecord}
      {r : TimedRecord}, r ∈ (queue.foldl (queueStep t) (slots, out)).2 →
      r ∈ out ∨ (∃ sr, some sr ∈ slots ∧ r = sr.record) ∨ r ∈ ownRecords queue
  | [], _, _, _, hr => .inl hr
  | .own r' :: rest, _, out, r, hr => by
    rw [ownRecords_cons_own]
    rcases mem_foldl_queueStep_source rest hr with hr | hr | hr
    · rcases List.mem_append.mp hr with hr | hr
      · exact .inl hr
      · exact .inr (.inr (List.mem_singleton.mp hr ▸ List.mem_cons_self))
    · exact .inr (.inl hr)
    · exact .inr (.inr (List.mem_cons_of_mem r' hr))
  | .shared i :: rest, slots, out, r, hr => by
    simp only [List.foldl_cons, queueStep] at hr
    rw [ownRecords_cons_shared]
    split at hr
    · rename_i sr hi
      rcases mem_foldl_queueStep_source rest hr with hr | ⟨sr', hsr', rfl⟩ | hr
      · split at hr
        · rcases List.mem_append.mp hr with hr | hr
          · exact .inl hr
          · exact .inr (.inl ⟨sr, List.mem_of_getElem? hi, List.mem_singleton.mp hr⟩)
        · exact .inl hr
      · rcases List.mem_or_eq_of_mem_set hsr' with hsr' | hsr'
        · exact .inr (.inl ⟨sr', hsr', rfl⟩)
        · cases hsr'
      · exact .inr (.inr hr)
    · exact mem_foldl_queueStep_source rest hr

/-- What replaying a queue writes: what was written before, its own records, and shared records
that change nothing. -/
theorem mem_foldl_queueStep :
    ∀ (queue : List Queued) {slots : List (Option SharedRecord)} {out : List TimedRecord}
      {r : TimedRecord}, SlotsInert slots → r ∈ (queue.foldl (queueStep t) (slots, out)).2 →
      r ∈ out ∨ ReplayView.Inert r ∨ r ∈ ownRecords queue := by
  intro queue slots out r h hr
  rcases mem_foldl_queueStep_source t queue hr with hr | ⟨sr, hsr, rfl⟩ | hr
  · exact .inl hr
  · exact .inr (.inl (h _ hsr sr rfl))
  · exact .inr (.inr hr)

/-- Replaying a queue replays as its own records: the shared records it writes change nothing. -/
theorem foldl_apply_foldl_queueStep :
    ∀ (queue : List Queued) {slots : List (Option SharedRecord)} (out : List TimedRecord),
      SlotsInert slots → ∀ {v : ReplayView}, v.WF →
      (queue.foldl (queueStep t) (slots, out)).2.foldl ReplayView.apply v =
        (out ++ ownRecords queue).foldl ReplayView.apply v
  | [], _, _, _, _, _ => by simp [ownRecords]
  | .own r :: rest, _, out, h, v, hv => by
    simp only [List.foldl_cons, queueStep]
    rw [foldl_apply_foldl_queueStep rest _ h hv]
    simp
  | .shared i :: rest, slots, out, h, v, hv => by
    simp only [List.foldl_cons, queueStep]
    rw [ownRecords_cons_shared]
    split
    · rename_i sr hi
      rw [foldl_apply_foldl_queueStep rest _ (h.set i) hv]
      split
      · rw [List.append_assoc, List.singleton_append]
        exact foldl_apply_append_inert (h.get hi) out _ hv
      · rfl
    · exact foldl_apply_foldl_queueStep rest _ h hv

/-- Replaying a queue keeps its own records in their order, so in time order when they were. -/
theorem pairwise_foldl_queueStep :
    ∀ (queue : List Queued) {slots : List (Option SharedRecord)} {out : List TimedRecord},
      SlotsInert slots → (ownRecords queue).Pairwise (fun a b => a.time ≤ b.time) →
      out.Pairwise ReplayView.InOrder →
      (∀ x ∈ out, ReplayView.Inert x ∨ ∀ y ∈ ownRecords queue, x.time ≤ y.time) →
      (queue.foldl (queueStep t) (slots, out)).2.Pairwise ReplayView.InOrder
  | [], _, _, _, _, hout, _ => hout
  | .own r :: rest, _, out, h, hq, hout, hbound => by
    rw [ownRecords_cons_own, List.pairwise_cons] at hq
    have hr : ∀ x ∈ out, ReplayView.InOrder x r := fun x hx =>
      (hbound x hx).elim (ReplayView.InOrder.of_inert_left · r) fun hle =>
        ReplayView.InOrder.of_le (hle r List.mem_cons_self)
    apply pairwise_foldl_queueStep rest h hq.2
    · exact List.pairwise_append.mpr ⟨hout, List.pairwise_singleton _ r,
        fun x hx y hy => List.mem_singleton.mp hy ▸ hr x hx⟩
    · intro x hx
      rcases List.mem_append.mp hx with hx | hx
      · exact (hbound x hx).imp_right fun hle y hy => hle y (List.mem_cons_of_mem r hy)
      · exact .inr (List.mem_singleton.mp hx ▸ hq.1)
  | .shared i :: rest, slots, out, h, hq, hout, hbound => by
    simp only [List.foldl_cons, queueStep]
    rw [ownRecords_cons_shared] at hq hbound
    split
    · rename_i sr hi
      have hsr := h.get hi
      apply pairwise_foldl_queueStep rest (h.set i) hq
      · split
        · exact List.pairwise_append.mpr ⟨hout, List.pairwise_singleton _ _,
            fun x _ y hy => ReplayView.InOrder.of_inert_right x (List.mem_singleton.mp hy ▸ hsr)⟩
        · exact hout
      · split
        · intro x hx
          rcases List.mem_append.mp hx with hx | hx
          · exact hbound x hx
          · exact .inl (List.mem_singleton.mp hx ▸ hsr)
        · exact hbound
    · exact pairwise_foldl_queueStep rest h hq hout hbound

theorem time_of_mem_motionRecords {st : EntityState} {id : Int32} {r : TimedRecord}
    (h : r ∈ st.motionRecords id) : r.time = st.lastTimestamp := by
  rw [motionRecords_eq] at h
  simp only [List.mem_append, List.mem_map, Option.mem_toList] at h
  rcases h with (⟨p, -, rfl⟩ | ⟨s, -, rfl⟩) | ⟨o, -, rfl⟩ <;> rfl

/-- A tracked entity's queue holds its own records: each a spawn of it or a record that
changes nothing, in time order, none later than its last record. -/
structure Valid (e : Int32) (st : EntityState) : Prop where
  own : ∀ r ∈ ownRecords st.queue, OwnRecord e r
  ordered : (ownRecords st.queue).Pairwise fun a b => a.time ≤ b.time
  bounded : ∀ r ∈ ownRecords st.queue, r.time ≤ st.lastTimestamp

/-- What replaying an entity's records makes of the view it had. -/
def rebuild (st : EntityState) (o : Option EntityView) : Option EntityView :=
  ((lastSpawn st.queue).or o).map st.withMotion

theorem rebuild_none (st : EntityState) : st.rebuild none = st.view? := by
  simp [rebuild, view?]

/-- A record that changes at most entity `e`. -/
def Touches (e : Int32) (r : TimedRecord) : Prop :=
  ReplayView.Inert r ∨ ∃ g, ReplayView.change r = { entities := .at e g }

theorem OwnRecord.touches {e : Int32} {r : TimedRecord} (h : OwnRecord e r) : Touches e r := by
  unfold OwnRecord at h
  cases hs : spawnView? r with
  | none => rw [hs] at h; exact .inl h
  | some ev => rw [hs] at h; exact .inr ⟨_, h⟩

theorem touches_of_mem_motionRecords {st : EntityState} {e : Int32} {r : TimedRecord}
    (h : r ∈ st.motionRecords e) : Touches e r :=
  .inr ⟨_, change_of_mem_motionRecords h⟩

/-- Records of two different entities commute. -/
theorem commute_of_touches {e e' : Int32} (hne : e ≠ e') {a b : TimedRecord} (ha : Touches e a)
    (hb : Touches e' b) : ReplayView.Commute a b := by
  rcases ha with ha | ⟨g, ha⟩
  · exact ReplayView.commute_of_inert_left ha b
  rcases hb with hb | ⟨g', hb⟩
  · exact ReplayView.commute_of_inert_right a hb
  apply ReplayView.commute_of_disjoint
  rw [ha, hb]
  exact ⟨hne, trivial, .inl rfl, .inl rfl, trivial, .inl rfl⟩

end EntityState

namespace EntityTracker

open EntityState

variable (t : EntityTracker)

/-- One entity's records rewrite its view, and nothing else. -/
theorem foldl_apply_entityStep {slots : List (Option SharedRecord)} (hs : SlotsInert slots)
    (out : List TimedRecord) {e : Int32} {st : EntityState}
    (hst : ∀ r ∈ ownRecords st.queue, OwnRecord e r) {v : ReplayView} (hv : v.WF) :
    (t.entityStep (slots, out) (e, st)).2.foldl ReplayView.apply v =
      { out.foldl ReplayView.apply v with
        entities := (out.foldl ReplayView.apply v).entities.update e st.rebuild } := by
  have hw := hv.foldl out
  have hown := foldl_apply_own (ownRecords st.queue) hst hw
  have hqueue := foldl_apply_foldl_queueStep t st.queue [] hs hw
  rw [List.nil_append, hown] at hqueue
  have hmotion := foldl_apply_motion (st.motionRecords e)
    (fun r hr => change_of_mem_motionRecords hr)
    (hw.update_entities e fun o => ((ownRecords st.queue).filterMap spawnView?).getLast?.or o)
  simp only [entityStep, List.foldl_append]
  rw [hqueue, hmotion, KeyMap.update_update hw.entities]
  congr 2
  funext o
  simp only [Function.comp, foldl_motionStep_motionRecords, rebuild, lastSpawn]

theorem slotsInert_foldl_entityStep :
    ∀ (entries : List (Int32 × EntityState)) (acc : List (Option SharedRecord) × List TimedRecord),
      SlotsInert acc.1 → SlotsInert (entries.foldl t.entityStep acc).1
  | [], _, h => h
  | p :: rest, acc, h =>
    slotsInert_foldl_entityStep rest (t.entityStep acc p) (slotsInert_foldl_queueStep t p.2.queue [] h)

/-- The fold only appends to what was written before it. -/
theorem foldl_entityStep_append :
    ∀ (entries : List (Int32 × EntityState)) (acc : List (Option SharedRecord) × List TimedRecord),
      entries.foldl t.entityStep acc =
        ((entries.foldl t.entityStep (acc.1, [])).1, acc.2 ++ (entries.foldl t.entityStep (acc.1, [])).2)
  | [], _ => by simp
  | p :: rest, acc => by
    simp only [List.foldl_cons]
    rw [foldl_entityStep_append rest, foldl_entityStep_append rest (t.entityStep (acc.1, []) p)]
    simp [entityStep, List.append_assoc]

/-- Every entity's records rewrite its view, one entity after another. -/
theorem foldl_apply_foldl_entityStep :
    ∀ (entries : List (Int32 × EntityState)) (acc : List (Option SharedRecord) × List TimedRecord),
      SlotsInert acc.1 → (∀ p ∈ entries, ∀ r ∈ ownRecords p.2.queue, OwnRecord p.1 r) →
      ∀ {v : ReplayView}, v.WF →
      (entries.foldl t.entityStep acc).2.foldl ReplayView.apply v =
        { acc.2.foldl ReplayView.apply v with
          entities := entries.foldl (fun m p => m.update p.1 p.2.rebuild)
            (acc.2.foldl ReplayView.apply v).entities }
  | [], _, _, _, _, _ => rfl
  | (e, st) :: rest, (slots, out), hs, hvalid, v, hv => by
    have hst := hvalid (e, st) List.mem_cons_self
    rw [List.foldl_cons, foldl_apply_foldl_entityStep rest (t.entityStep (slots, out) (e, st))
      (slotsInert_foldl_queueStep t st.queue [] hs)
      (fun p hp => hvalid p (List.mem_cons_of_mem _ hp)) hv, foldl_apply_entityStep t hs out hst hv]
    rfl

theorem slots_foldl_entityStep :
    ∀ (entries : List (Int32 × EntityState)) (acc : List (Option SharedRecord) × List TimedRecord)
      {sr : SharedRecord}, some sr ∈ (entries.foldl t.entityStep acc).1 → some sr ∈ acc.1
  | [], _, _, h => h
  | p :: rest, acc, _, h =>
    slots_foldl_queueStep t p.2.queue [] (slots_foldl_entityStep rest (t.entityStep acc p) h)

/-- What the fold writes: what was written before, a record a slot held, and the own or motion
records of an entity folded. -/
theorem mem_foldl_entityStep_source :
    ∀ (entries : List (Int32 × EntityState)) (acc : List (Option SharedRecord) × List TimedRecord)
      {r : TimedRecord}, r ∈ (entries.foldl t.entityStep acc).2 →
      r ∈ acc.2 ∨ (∃ sr, some sr ∈ acc.1 ∧ r = sr.record) ∨
        ∃ p ∈ entries, r ∈ ownRecords p.2.queue ∨ r ∈ p.2.motionRecords p.1
  | [], _, _, hr => .inl hr
  | p :: rest, acc, r, hr => by
    rw [List.foldl_cons] at hr
    rcases mem_foldl_entityStep_source rest (t.entityStep acc p) hr with
      hr | ⟨sr, hsr, rfl⟩ | ⟨q, hq, hr⟩
    · simp only [entityStep, List.mem_append] at hr
      rcases hr with (hr | hr) | hr
      · exact .inl hr
      · rcases mem_foldl_queueStep_source t p.2.queue hr with hr | hr | hr
        · simp at hr
        · exact .inr (.inl hr)
        · exact .inr (.inr ⟨p, List.mem_cons_self, .inl hr⟩)
      · exact .inr (.inr ⟨p, List.mem_cons_self, .inr hr⟩)
    · exact .inr (.inl ⟨sr, slots_foldl_queueStep t p.2.queue [] hsr, rfl⟩)
    · exact .inr (.inr ⟨q, List.mem_cons_of_mem p hq, hr⟩)

/-- What the fold writes: what was written before, records that change nothing, and the own
or motion records of an entity folded. -/
theorem mem_foldl_entityStep :
    ∀ (entries : List (Int32 × EntityState)) (acc : List (Option SharedRecord) × List TimedRecord)
      {r : TimedRecord}, SlotsInert acc.1 → r ∈ (entries.foldl t.entityStep acc).2 →
      r ∈ acc.2 ∨ ReplayView.Inert r ∨
        ∃ p ∈ entries, r ∈ ownRecords p.2.queue ∨ r ∈ p.2.motionRecords p.1 := by
  intro entries acc r hs hr
  rcases mem_foldl_entityStep_source t entries acc hr with hr | ⟨sr, hsr, rfl⟩ | hr
  · exact .inl hr
  · exact .inr (.inl (hs _ hsr sr rfl))
  · exact .inr (.inr hr)

theorem touches_of_mem {e : Int32} {st : EntityState} (hst : st.Valid e) {r : TimedRecord}
    (h : r ∈ ownRecords st.queue ∨ r ∈ st.motionRecords e) : Touches e r :=
  h.elim (fun h => (hst.own r h).touches) touches_of_mem_motionRecords

/-- One entity's records are in time order, but for records that change nothing. -/
theorem pairwise_entity_records {slots : List (Option SharedRecord)} (hs : SlotsInert slots)
    {e : Int32} {st : EntityState} (hst : st.Valid e) :
    ((st.queue.foldl (queueStep t) (slots, [])).2 ++ st.motionRecords e).Pairwise
      ReplayView.InOrder := by
  refine List.pairwise_append.mpr ⟨?_, ?_, ?_⟩
  · exact pairwise_foldl_queueStep t st.queue hs hst.ordered List.Pairwise.nil (by simp)
  · refine List.pairwise_of_forall_mem_list fun a ha b hb => ReplayView.InOrder.of_le ?_
    rw [time_of_mem_motionRecords ha, time_of_mem_motionRecords hb]
    exact Int64.le_refl _
  · intro a ha b hb
    rcases mem_foldl_queueStep t st.queue hs ha with ha | ha | ha
    · simp at ha
    · exact ReplayView.InOrder.of_inert_left ha b
    · exact ReplayView.InOrder.of_le (time_of_mem_motionRecords hb ▸ hst.bounded a ha)

/-- Records of different entities commute, and each entity's own are in time order. -/
theorem pairwise_foldl_entityStep :
    ∀ (entries : List (Int32 × EntityState)) {slots : List (Option SharedRecord)},
      (⟨entries⟩ : KeyMap Int32 EntityState).Sorted → SlotsInert slots →
      (∀ p ∈ entries, p.2.Valid p.1) →
      (entries.foldl t.entityStep (slots, [])).2.Pairwise ReplayView.Reorderable
  | [], _, _, _, _ => List.Pairwise.nil
  | (e, st) :: rest, slots, hsorted, hs, hvalid => by
    have hst := hvalid (e, st) List.mem_cons_self
    have hs' := slotsInert_foldl_queueStep t st.queue [] hs
    have hrest : ∀ p ∈ rest, p.2.Valid p.1 := fun p hp => hvalid p (List.mem_cons_of_mem _ hp)
    rw [List.foldl_cons, foldl_entityStep_append]
    simp only [entityStep, List.nil_append]
    refine List.pairwise_append.mpr ⟨?_, pairwise_foldl_entityStep rest
      (List.pairwise_cons.mp hsorted).2 hs' hrest, ?_⟩
    · exact (pairwise_entity_records t hs hst).imp ReplayView.InOrder.reorderable
    · intro a ha b hb _
      have hta : Touches e a := by
        rcases List.mem_append.mp ha with ha | ha
        · rcases mem_foldl_queueStep t st.queue hs ha with ha | ha | ha
          · simp at ha
          · exact .inl ha
          · exact touches_of_mem hst (.inl ha)
        · exact touches_of_mem hst (.inr ha)
      rcases mem_foldl_entityStep t rest ((st.queue.foldl (queueStep t) (slots, [])).1, []) hs' hb
        with hb | hb | ⟨q, hq, hb⟩
      · simp at hb
      · exact ReplayView.commute_of_inert_right a hb
      · have hne : e ≠ q.1 := fun h => by
          have := (List.pairwise_cons.mp hsorted).1 q hq
          rw [← h, Std.ReflOrd.compare_self] at this
          cases this
        exact commute_of_touches hne hta (touches_of_mem (hrest q hq) hb)

/-- What a tracker keeps for its records to replay as its view. -/
structure Valid (t : EntityTracker) : Prop where
  sorted : t.entities.Sorted
  states : ∀ e st, t.entities.find? e = some st → st.Valid e
  slots : SlotsInert t.shared

/-- What a tracker keeps, whatever the times of the records it took in, for its records to
replay as its view: each queue holds its entity's own records, and shared records change
nothing. -/
structure Coherent (t : EntityTracker) : Prop where
  sorted : t.entities.Sorted
  own : ∀ e st, t.entities.find? e = some st → ∀ r ∈ ownRecords st.queue, OwnRecord e r
  slots : SlotsInert t.shared

variable {t}

theorem Valid.coherent (ht : t.Valid) : t.Coherent :=
  ⟨ht.sorted, fun e st h => (ht.states e st h).own, ht.slots⟩

theorem Valid.entries (ht : t.Valid) : ∀ p ∈ t.entities.entries, p.2.Valid p.1 :=
  fun p hp => ht.states p.1 p.2 (ht.sorted.find?_eq_some_iff.mpr hp)

/-- Replaying what a tracker synthesizes, from a view with no live entity, brings in exactly
the tracker's view. -/
theorem Coherent.foldl_apply_synthesize (ht : t.Coherent) {v : ReplayView} (hv : v.WF)
    (he : v.entities = {}) : t.synthesize.foldl ReplayView.apply v = { v with entities := t.view } := by
  have hown : ∀ p ∈ t.entities.entries, ∀ r ∈ ownRecords p.2.queue, OwnRecord p.1 r :=
    fun p hp => ht.own p.1 p.2 (ht.sorted.find?_eq_some_iff.mpr hp)
  rw [synthesize_eq, foldl_apply_foldl_entityStep t _ _ ht.slots hown hv]
  simp only [List.foldl_nil, he]
  rw [KeyMap.foldl_update_entries_empty ht.sorted]
  simp only [rebuild_none]
  rfl

theorem foldl_apply_synthesize (ht : t.Valid) {v : ReplayView} (hv : v.WF)
    (he : v.entities = {}) : t.synthesize.foldl ReplayView.apply v = { v with entities := t.view } :=
  ht.coherent.foldl_apply_synthesize hv he

theorem pairwise_synthesize (ht : t.Valid) : t.synthesize.Pairwise ReplayView.Reorderable :=
  pairwise_foldl_entityStep t _ ht.sorted ht.slots ht.entries

/-- Each synthesized record changes nothing, or is a tracked entity's own or motion record. -/
theorem mem_synthesize (ht : t.Valid) {r : TimedRecord} (hr : r ∈ t.synthesize) :
    ReplayView.Inert r ∨ ∃ e st, t.entities.find? e = some st ∧
      (r ∈ ownRecords st.queue ∨ r ∈ st.motionRecords e) := by
  rw [synthesize_eq] at hr
  rcases mem_foldl_entityStep t _ _ ht.slots hr with hr | hr | ⟨p, hp, hr⟩
  · simp at hr
  · exact .inl hr
  · exact .inr ⟨p.1, p.2, ht.sorted.find?_eq_some_iff.mpr hp, hr⟩

end EntityTracker

end SessionSquash
