import SessionSquash.Proofs.Squash.Entities

namespace SessionSquash

set_option autoImplicit false

namespace EntityState

/-- Every record a state replays for entity `e` is no older than `T`. -/
def After (T : Int64) (e : Int32) (st : EntityState) : Prop :=
  (∀ r ∈ ownRecords st.queue, T ≤ r.time) ∧ ∀ r ∈ st.motionRecords e, T ≤ r.time

/-- No own record of a state is newer than `τ`. -/
def Until (τ : Int64) (st : EntityState) : Prop := ∀ r ∈ ownRecords st.queue, r.time ≤ τ

/-- A handler that queues `r` as the entity's own record and stamps the state with its time. -/
def Pushes (r : TimedRecord) (f : EntityState → EntityState) : Prop :=
  ∀ st, ownRecords (f st).queue = ownRecords st.queue ++ [r] ∧ (f st).lastTimestamp = r.time

/-- A handler that keeps the queue and stamps the state with `time`. -/
def Moves (time : Int64) (f : EntityState → EntityState) : Prop :=
  ∀ st, (f st).queue = st.queue ∧ (f st).lastTimestamp = time

/-- How a record naming several entities is queued on each of them. -/
def shareStep (slot : Nat) (st : EntityState) : EntityState :=
  if st.endsWith slot then st else { st with queue := st.queue ++ [.shared slot] }

variable {e : Int32} {st st' : EntityState}

theorem motionRecords_empty (e : Int32) : ({} : EntityState).motionRecords e = [] := by
  rw [motionRecords_eq]
  simp [drainSteps]

theorem valid_empty (e : Int32) : ({} : EntityState).Valid e :=
  ⟨fun _ h => by simp [ownRecords] at h, .nil, fun _ h => by simp [ownRecords] at h⟩

theorem after_empty (T : Int64) (e : Int32) : ({} : EntityState).After T e :=
  ⟨fun _ h => by simp [ownRecords] at h, fun _ h => by simp [motionRecords_empty] at h⟩

theorem until_empty (τ : Int64) : ({} : EntityState).Until τ := fun _ h => by
  simp [ownRecords] at h

theorem Until.mono {τ τ' : Int64} (h : st.Until τ) (hτ : τ ≤ τ') : st.Until τ' :=
  fun r hr => Int64.le_trans (h r hr) hτ

section Push

variable {r : TimedRecord} (hq : ownRecords st'.queue = ownRecords st.queue ++ [r])
include hq

theorem Valid.push (hst : st.Valid e) (hr : OwnRecord e r) (hτ : st.Until r.time)
    (ht : st'.lastTimestamp = r.time) : st'.Valid e where
  own x hx := by
    rw [hq, List.mem_append, List.mem_singleton] at hx
    rcases hx with hx | rfl
    · exact hst.own x hx
    · exact hr
  ordered := by
    rw [hq, List.pairwise_append]
    refine ⟨hst.ordered, List.pairwise_singleton _ _, fun x hx y hy => ?_⟩
    rw [List.mem_singleton.mp hy]
    exact hτ x hx
  bounded x hx := by
    rw [ht]
    rw [hq, List.mem_append, List.mem_singleton] at hx
    rcases hx with hx | rfl
    · exact hτ x hx
    · exact Int64.le_refl _

theorem After.push {T : Int64} (h : st.After T e) (hT : T ≤ r.time)
    (ht : st'.lastTimestamp = r.time) : st'.After T e := by
  refine ⟨fun x hx => ?_, fun x hx => ?_⟩
  · rw [hq, List.mem_append, List.mem_singleton] at hx
    rcases hx with hx | rfl
    · exact h.1 x hx
    · exact hT
  · rw [time_of_mem_motionRecords hx, ht]
    exact hT

theorem Until.push {τ : Int64} (h : st.Until τ) (hτ : τ ≤ r.time) : st'.Until r.time := by
  intro x hx
  rw [hq, List.mem_append, List.mem_singleton] at hx
  rcases hx with hx | rfl
  · exact Int64.le_trans (h x hx) hτ
  · exact Int64.le_refl _

end Push

section Move

variable {time : Int64} (hq : st'.queue = st.queue)
include hq

theorem Valid.move (hst : st.Valid e) (hτ : st.Until time) (ht : st'.lastTimestamp = time) :
    st'.Valid e where
  own := by rw [hq]; exact hst.own
  ordered := by rw [hq]; exact hst.ordered
  bounded x hx := by
    rw [hq] at hx
    rw [ht]
    exact hτ x hx

theorem After.move {T : Int64} (h : st.After T e) (hT : T ≤ time)
    (ht : st'.lastTimestamp = time) : st'.After T e :=
  ⟨by rw [hq]; exact h.1, fun x hx => by rw [time_of_mem_motionRecords hx, ht]; exact hT⟩

theorem Until.move {τ : Int64} (h : st.Until τ) (hτ : τ ≤ time) : st'.Until time := by
  rw [Until, hq]
  exact h.mono hτ

end Move

@[simp] theorem ownRecords_shareStep (slot : Nat) (st : EntityState) :
    ownRecords (shareStep slot st).queue = ownRecords st.queue := by
  unfold shareStep
  split <;> simp

@[simp] theorem motionRecords_shareStep (slot : Nat) (st : EntityState) (e : Int32) :
    (shareStep slot st).motionRecords e = st.motionRecords e := by
  unfold shareStep
  split <;> rfl

@[simp] theorem lastTimestamp_shareStep (slot : Nat) (st : EntityState) :
    (shareStep slot st).lastTimestamp = st.lastTimestamp := by
  unfold shareStep
  split <;> rfl

theorem Valid.shareStep (hst : st.Valid e) (slot : Nat) : (EntityState.shareStep slot st).Valid e where
  own := by rw [ownRecords_shareStep]; exact hst.own
  ordered := by rw [ownRecords_shareStep]; exact hst.ordered
  bounded := by rw [ownRecords_shareStep, lastTimestamp_shareStep]; exact hst.bounded

theorem After.shareStep {T : Int64} (h : st.After T e) (slot : Nat) :
    (EntityState.shareStep slot st).After T e := by
  rw [After, ownRecords_shareStep, motionRecords_shareStep]
  exact h

theorem Until.shareStep {τ : Int64} (h : st.Until τ) (slot : Nat) :
    (EntityState.shareStep slot st).Until τ := by
  rw [Until, ownRecords_shareStep]
  exact h

end EntityState

namespace EntityTracker

open EntityState

/-- Every record the tracker replays for entity `e` is no older than `T`. -/
def Since (T : Int64) (e : Int32) (t : EntityTracker) : Prop :=
  ∀ st, t.entities.find? e = some st → st.After T e

/-- No own record the tracker holds is newer than `τ`. -/
def Until (τ : Int64) (t : EntityTracker) : Prop :=
  ∀ e st, t.entities.find? e = some st → st.Until τ

variable {t : EntityTracker}

theorem Until.mono {τ τ' : Int64} (hu : t.Until τ) (hτ : τ ≤ τ') : t.Until τ' :=
  fun e st h => (hu e st h).mono hτ

/-- What a handler makes of each state it rewrites, and of a fresh one, every state of the
tracker then has. -/
theorem forall_modify {P Q : Int32 → EntityState → Prop} {id : Int32}
    {f : EntityState → EntityState} (h : ∀ e st, t.entities.find? e = some st → P e st)
    (h₀ : P id {}) (hkeep : ∀ e st, P e st → Q e st) (hf : ∀ st, P id st → Q id (f st)) :
    ∀ e st, (t.modify id f).entities.find? e = some st → Q e st := by
  intro e st hst
  rw [modify, KeyMap.find?_alter] at hst
  split at hst
  · next hid =>
    cases hst
    subst hid
    apply hf
    cases hfind : t.entities.find? id with
    | none => exact h₀
    | some st₀ => exact h id st₀ hfind
  · exact hkeep e st (h e st hst)

section Push

variable {id : Int32} {r : TimedRecord} {f : EntityState → EntityState} (hf : Pushes r f)
include hf

theorem Valid.modify_push {τ : Int64} (ht : t.Valid) (hu : t.Until τ) (hτ : τ ≤ r.time)
    (hr : OwnRecord id r) : (t.modify id f).Valid where
  sorted := sorted_modify ht.sorted id f
  states := forall_modify (P := fun e st => st.Valid e ∧ st.Until τ)
    (fun e st h => ⟨ht.states e st h, hu e st h⟩) ⟨valid_empty id, until_empty τ⟩
    (fun _ _ h => h.1) fun st h => h.1.push (hf st).1 hr (h.2.mono hτ) (hf st).2
  slots := ht.slots

theorem Until.modify_push {τ : Int64} (hu : t.Until τ) (hτ : τ ≤ r.time) :
    (t.modify id f).Until r.time :=
  forall_modify (P := fun _ st => st.Until τ) hu (until_empty τ) (fun _ _ h => h.mono hτ)
    fun st h => h.push (hf st).1 hτ

theorem Since.modify_push {T : Int64} {e : Int32} (hs : t.Since T e) (hT : T ≤ r.time) :
    (t.modify id f).Since T e := fun st hst =>
  forall_modify (P := fun e' st => e' = e → st.After T e') (fun _ st h he => he ▸ hs st (he ▸ h))
    (fun _ => after_empty T id) (fun _ _ h => h)
    (fun st h he => (h he).push (hf st).1 hT (hf st).2) e st hst rfl

end Push

section Move

variable {id : Int32} {time : Int64} {f : EntityState → EntityState} (hf : Moves time f)
include hf

theorem Valid.modify_move {τ : Int64} (ht : t.Valid) (hu : t.Until τ) (hτ : τ ≤ time) :
    (t.modify id f).Valid where
  sorted := sorted_modify ht.sorted id f
  states := forall_modify (P := fun e st => st.Valid e ∧ st.Until τ)
    (fun e st h => ⟨ht.states e st h, hu e st h⟩) ⟨valid_empty id, until_empty τ⟩
    (fun _ _ h => h.1) fun st h => h.1.move (hf st).1 (h.2.mono hτ) (hf st).2
  slots := ht.slots

theorem Until.modify_move {τ : Int64} (hu : t.Until τ) (hτ : τ ≤ time) :
    (t.modify id f).Until time :=
  forall_modify (P := fun _ st => st.Until τ) hu (until_empty τ) (fun _ _ h => h.mono hτ)
    fun st h => h.move (hf st).1 hτ

theorem Since.modify_move {T : Int64} {e : Int32} (hs : t.Since T e) (hT : T ≤ time) :
    (t.modify id f).Since T e := fun st hst =>
  forall_modify (P := fun e' st => e' = e → st.After T e') (fun _ st h he => he ▸ hs st (he ▸ h))
    (fun _ => after_empty T id) (fun _ _ h => h)
    (fun st h he => (h he).move (hf st).1 hT (hf st).2) e st hst rfl

end Move

section Handlers

variable {τ T : Int64} {e : Int32}

theorem Valid.onSpawn (ht : t.Valid) (hu : t.Until τ) (id : Int32) {r : TimedRecord}
    (hτ : τ ≤ r.time) (hr : OwnRecord id r) : (t.onSpawn id r).Valid :=
  ht.modify_push (fun _ => ⟨ownRecords_append_own _ _, rfl⟩) hu hτ hr

theorem Until.onSpawn (hu : t.Until τ) (id : Int32) {r : TimedRecord} (hτ : τ ≤ r.time) :
    (t.onSpawn id r).Until r.time :=
  hu.modify_push (fun _ => ⟨ownRecords_append_own _ _, rfl⟩) hτ

theorem Since.onSpawn (hs : t.Since T e) (id : Int32) {r : TimedRecord} (hT : T ≤ r.time) :
    (t.onSpawn id r).Since T e :=
  hs.modify_push (fun _ => ⟨ownRecords_append_own _ _, rfl⟩) hT

theorem Valid.onGeneric (ht : t.Valid) (hu : t.Until τ) (id : Int32) {r : TimedRecord}
    (hτ : τ ≤ r.time) (hr : OwnRecord id r) : (t.onGeneric id r).Valid :=
  ht.modify_push (fun _ => ⟨ownRecords_append_own _ _, rfl⟩) hu hτ hr

theorem Until.onGeneric (hu : t.Until τ) (id : Int32) {r : TimedRecord} (hτ : τ ≤ r.time) :
    (t.onGeneric id r).Until r.time :=
  hu.modify_push (fun _ => ⟨ownRecords_append_own _ _, rfl⟩) hτ

theorem Since.onGeneric (hs : t.Since T e) (id : Int32) {r : TimedRecord} (hT : T ≤ r.time) :
    (t.onGeneric id r).Since T e :=
  hs.modify_push (fun _ => ⟨ownRecords_append_own _ _, rfl⟩) hT

/-- A movement keeps the queue, whichever parts of the motion it carries. -/
theorem moves_onMovement (time : Int64) (m : Movement) :
    ∃ f, Moves time f ∧ t.onMovement time m = t.modify m.entityId f := by
  refine ⟨_, fun st => ⟨?_, rfl⟩, rfl⟩
  dsimp only
  split <;> split <;> rfl

theorem Valid.onMovement (ht : t.Valid) (hu : t.Until τ) {time : Int64} (hτ : τ ≤ time)
    (m : Movement) : (t.onMovement time m).Valid := by
  obtain ⟨f, hf, heq⟩ := moves_onMovement (t := t) time m
  rw [heq]
  exact ht.modify_move hf hu hτ

theorem Until.onMovement (hu : t.Until τ) {time : Int64} (hτ : τ ≤ time) (m : Movement) :
    (t.onMovement time m).Until time := by
  obtain ⟨f, hf, heq⟩ := moves_onMovement (t := t) time m
  rw [heq]
  exact hu.modify_move hf hτ

theorem Since.onMovement (hs : t.Since T e) {time : Int64} (hT : T ≤ time) (m : Movement) :
    (t.onMovement time m).Since T e := by
  obtain ⟨f, hf, heq⟩ := moves_onMovement (t := t) time m
  rw [heq]
  exact hs.modify_move hf hT

theorem Valid.onTeleport (ht : t.Valid) (hu : t.Until τ) {time : Int64} (hτ : τ ≤ time)
    (tp : Teleport) : (t.onTeleport time tp).Valid :=
  ht.modify_move (fun _ => ⟨rfl, rfl⟩) hu hτ

theorem Until.onTeleport (hu : t.Until τ) {time : Int64} (hτ : τ ≤ time) (tp : Teleport) :
    (t.onTeleport time tp).Until time :=
  hu.modify_move (fun _ => ⟨rfl, rfl⟩) hτ

theorem Since.onTeleport (hs : t.Since T e) {time : Int64} (hT : T ≤ time) (tp : Teleport) :
    (t.onTeleport time tp).Since T e := by
  refine hs.modify_move ?_ hT
  exact fun _ => ⟨rfl, rfl⟩

end Handlers

theorem onShared_eq (ids : List Int32) (r : TimedRecord) :
    t.onShared ids r = ids.foldl (fun u id => u.modify id (shareStep t.shared.length))
      { t with shared := t.shared ++ [some ⟨r, ids⟩] } := rfl

/-- Queueing a shared slot on each named entity keeps whatever each state keeps. -/
theorem forall_foldl_share {P : Int32 → EntityState → Prop} (slot : Nat)
    (h₀ : ∀ e, P e {}) (hstep : ∀ e st, P e st → P e (shareStep slot st)) :
    ∀ (ids : List Int32) (u : EntityTracker), (∀ e st, u.entities.find? e = some st → P e st) →
      ∀ e st, (ids.foldl (fun u id => u.modify id (shareStep slot)) u).entities.find? e = some st →
        P e st
  | [], _, h => h
  | id :: rest, u, h =>
    forall_foldl_share slot h₀ hstep rest (u.modify id (shareStep slot))
      (forall_modify h (h₀ id) (fun _ _ h => h) (hstep id))

theorem foldl_share_shared (slot : Nat) :
    ∀ (ids : List Int32) (u : EntityTracker),
      (ids.foldl (fun u id => u.modify id (shareStep slot)) u).shared = u.shared
  | [], _ => rfl
  | _ :: rest, u => foldl_share_shared slot rest (u.modify _ _)

theorem sorted_foldl_share (slot : Nat) :
    ∀ (ids : List Int32) (u : EntityTracker), u.entities.Sorted →
      (ids.foldl (fun u id => u.modify id (shareStep slot)) u).entities.Sorted
  | [], _, h => h
  | id :: rest, u, h =>
    sorted_foldl_share slot rest (u.modify id (shareStep slot)) (sorted_modify h id _)

theorem Valid.onShared (ht : t.Valid) (ids : List Int32) {r : TimedRecord}
    (hr : ReplayView.Inert r) : (t.onShared ids r).Valid := by
  rw [onShared_eq]
  refine ⟨sorted_foldl_share _ ids _ ht.sorted,
    forall_foldl_share _ valid_empty (fun _ _ h => h.shareStep _) ids _ ht.states, ?_⟩
  rw [foldl_share_shared]
  exact ht.slots.push hr

theorem Until.onShared {τ : Int64} (hu : t.Until τ) (ids : List Int32) (r : TimedRecord) :
    (t.onShared ids r).Until τ := by
  rw [onShared_eq]
  exact forall_foldl_share _ (fun _ => until_empty τ) (fun _ _ h => h.shareStep _) ids _ hu

theorem Since.onShared {T : Int64} {e : Int32} (hs : t.Since T e) (ids : List Int32)
    (r : TimedRecord) : (t.onShared ids r).Since T e := by
  rw [onShared_eq]
  intro st hst
  exact forall_foldl_share (P := fun e' st => e' = e → st.After T e') _
    (fun e' _ => after_empty T e') (fun _ _ h he => (h he).shareStep _) ids
    { t with shared := t.shared ++ [some ⟨r, ids⟩] } (fun _ st h he => he ▸ hs st (he ▸ h))
    e st hst rfl

theorem find?_onDestroy (ids : List Int32) (e : Int32) :
    (t.onDestroy ids).entities.find? e = if e ∈ ids then none else t.entities.find? e :=
  KeyMap.find?_foldl_erase ids e t.entities

theorem Valid.onDestroy (ht : t.Valid) (ids : List Int32) : (t.onDestroy ids).Valid where
  sorted := ht.sorted.foldl_erase ids
  states e st h := by
    rw [find?_onDestroy] at h
    split at h
    · cases h
    · exact ht.states e st h
  slots := ht.slots

theorem Until.onDestroy {τ : Int64} (hu : t.Until τ) (ids : List Int32) :
    (t.onDestroy ids).Until τ := fun e st h => by
  rw [find?_onDestroy] at h
  split at h
  · cases h
  · exact hu e st h

theorem Since.onDestroy {T : Int64} {e : Int32} (hs : t.Since T e) (ids : List Int32) :
    (t.onDestroy ids).Since T e := fun st h => by
  rw [find?_onDestroy] at h
  split at h
  · cases h
  · exact hs st h

/-- A destroyed entity has nothing left to replay. -/
theorem since_onDestroy (T : Int64) (ids : List Int32) {e : Int32} (he : e ∈ ids) :
    (t.onDestroy ids).Since T e := fun st h => by
  rw [find?_onDestroy, if_pos he] at h
  cases h

end EntityTracker

end SessionSquash
