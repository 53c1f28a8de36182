import SessionSquash.Squash.Engine
import SessionSquash.Proofs.Squash.EntityTimes
import SessionSquash.Proofs.Squash.Chunks
import SessionSquash.Proofs.Squash.Windows
import SessionSquash.Proofs.Squash.Session
import SessionSquash.Proofs.Squash.Teams

namespace SessionSquash

set_option autoImplicit false

open ReplayView

section Records

variable (time : Int64)

theorem inert_raw (kind : RecordKind) (data : Json) : Inert ⟨time, .raw kind data⟩ := rfl

theorem inert_of_world {p : Payload} (h : p.kind.domain = .world) : Inert ⟨time, .typed p⟩ := by
  cases p <;> first | rfl | cases h

theorem inert_of_other {p : Payload} (h : p.kind.domain = .other) : Inert ⟨time, .typed p⟩ := by
  cases p <;> first | rfl | cases h

/-- Every record of the entity domain names an entity. -/
theorem entityRef_ne_none {p : Payload} (h : p.kind.domain = .entity) :
    (Record.typed p).entityRef ≠ .none := by
  cases p <;> simp [Record.entityRef] <;> cases h

/-- A record naming several entities changes nothing, unless it destroys them. -/
theorem inert_of_multiple {p : Payload} {ids : List Int32}
    (h : (Record.typed p).entityRef = .multiple ids) (hd : ∀ d, p ≠ .destroy d) :
    Inert ⟨time, .typed p⟩ := by
  cases p <;> first
    | rfl
    | (simp only [Record.entityRef] at h; cases h; done)
    | exact absurd rfl (hd _)

/-- A spawn brings in the entity it names. -/
theorem spawn_change {p : Payload} {id : Int32} (h : (Record.typed p).entityRef = .single id)
    (hs : Squasher.isSpawn p = true) :
    ∃ ev, EntityState.spawnView? ⟨time, .typed p⟩ = some ev ∧
      change ⟨time, .typed p⟩ = { entities := .at id fun _ => some ev } := by
  cases p <;> simp only [Squasher.isSpawn, Bool.false_eq_true] at hs <;>
    simp only [Record.entityRef, EntityRef.single.injEq] at h <;> subst h <;>
    exact ⟨_, rfl, rfl⟩

/-- Any other record naming one entity changes nothing, but a movement or a teleport. -/
theorem inert_of_single {p : Payload} {id : Int32} (h : (Record.typed p).entityRef = .single id)
    (hs : Squasher.isSpawn p = false) (hm : ∀ m, p ≠ .movement m) (ht : ∀ tp, p ≠ .teleport tp) :
    Inert ⟨time, .typed p⟩ ∧ EntityState.spawnView? ⟨time, .typed p⟩ = none := by
  cases p <;> first
    | exact ⟨rfl, rfl⟩
    | (simp only [Record.entityRef] at h; cases h; done)
    | (cases hs; done)
    | exact absurd rfl (hm _)
    | exact absurd rfl (ht _)

theorem change_windowItems_main {w : WindowItems} (h : w.isMainInventory = true) :
    change ⟨time, .typed (.windowItems w)⟩ = { inventory := .fill w.items } := by
  simp [change, payloadChange, h]

theorem inert_windowItems {w : WindowItems} (h : w.isMainInventory = false) :
    Inert ⟨time, .typed (.windowItems w)⟩ := by
  simp [Inert, change, payloadChange, h]

theorem change_setSlot_main {d : SetSlot} (h : d.isMainInventory = true) :
    change ⟨time, .typed (.setSlot d)⟩ = { inventory := .slot d.slot d.item } := by
  simp [change, payloadChange, h]

theorem inert_setSlot {d : SetSlot} (h : d.isMainInventory = false) :
    Inert ⟨time, .typed (.setSlot d)⟩ := by
  simp [Inert, change, payloadChange, h]

/-- A window record changes nothing, but a main-inventory snapshot or slot change. -/
theorem inert_of_window {rec : Record} (hd : rec.kind.domain = .window)
    (hw : ∀ w, rec = .typed (.windowItems w) → False) (hs : ∀ d, rec = .typed (.setSlot d) → False) :
    Inert ⟨time, rec⟩ := by
  cases rec with
  | raw => rfl
  | typed p =>
    cases p <;> first
      | rfl
      | exact (hw _ rfl).elim
      | exact (hs _ rfl).elim
      | simp [Record.kind, Payload.kind, RecordKind.domain] at hd

/-- A session record changes nothing, but a join, a respawn, a game-mode change or a map. -/
theorem inert_of_session {p : Payload} (hd : p.kind.domain = .session)
    (hj : ∀ j, Record.typed p = .typed (.join j) → False)
    (hr : ∀ r, Record.typed p = .typed (.respawn r) → False)
    (hg : ∀ m, Record.typed p = .typed (.notify (.changeGameMode m)) → False)
    (hm : ∀ m, Record.typed p = .typed (.mapData m) → False) : Inert ⟨time, .typed p⟩ := by
  cases p <;> first
    | rfl
    | exact (hj _ rfl).elim
    | exact (hr _ rfl).elim
    | exact (hm _ rfl).elim
    | (rename_i n; cases n <;> first | rfl | exact (hg _ rfl).elim)
    | simp [Payload.kind, RecordKind.domain] at hd

end Records

/-- A team record that fits the teams of `v`; any other record fits. -/
def TimedRecord.fitsTeams (v : ReplayView) (r : TimedRecord) : Bool :=
  match r.record with
  | .typed (.team d) => d.fits v.teams
  | _ => true

namespace Squasher

/-- The view a squasher stands for. -/
def view (s : Squasher) : ReplayView :=
  { entities := s.entities.view, chunks := s.chunks.view, teams := s.teams.view,
    session := s.session.view, inventory := s.windows.inventory, maps := s.session.maps }

/-- A record the current world may keep: one that changes nothing, or a destroy. -/
def WorldRecord (r : TimedRecord) : Prop := Inert r ∨ ∃ ids, change r = { entities := .erase ids }

/-- What a squasher keeps after taking in records up to time `τ`. -/
structure Inv (τ : Int64) (s : Squasher) : Prop where
  unhandled : ∀ r ∈ s.unhandled, Inert r
  world : ∀ r ∈ s.currentWorld, WorldRecord r ∧ r.time ≤ τ
  worldOrdered : s.currentWorld.Pairwise fun a b => a.time ≤ b.time
  /-- Nothing held of an entity a destroy names is older than the destroy. -/
  destroyed : ∀ r ∈ s.currentWorld, ∀ ids, change r = { entities := .erase ids } →
    ∀ e ∈ ids, s.entities.Since r.time e
  entities : s.entities.Valid
  entitiesUntil : s.entities.Until τ
  chunks : s.chunks.Valid
  chunksUntil : s.chunks.Until τ
  windows : s.windows.Valid
  snapshotUntil : ∀ m, s.windows.mainInventory = some m → m.time ≤ τ
  teams : s.teams.Valid
  session : s.session.Valid
  /-- Nothing the entity and chunk trackers hold is older than the last respawn. -/
  respawned : ∀ T rs, s.session.respawn = some (T, rs) →
    T ≤ τ ∧ (∀ e, s.entities.Since T e) ∧ s.chunks.Since T

/-- Two squashers that differ at most in their bookkeeping: time, report and notes. -/
structure SameState (s s' : Squasher) : Prop where
  unhandled : s'.unhandled = s.unhandled
  currentWorld : s'.currentWorld = s.currentWorld
  entities : s'.entities = s.entities
  chunks : s'.chunks = s.chunks
  windows : s'.windows = s.windows
  teams : s'.teams = s.teams
  session : s'.session = s.session

/-- Taking in `r` moved the squasher from `s` to `s'` as replaying `r` moves a view, and kept
it valid. -/
structure Steps (s : Squasher) (r : TimedRecord) (s' : Squasher) : Prop where
  view : s'.view = s.view.apply r
  inv : s'.Inv r.time

variable {s s' s'' : Squasher} {τ : Int64}

theorem wf_view (hs : s.Inv τ) : s.view.WF where
  entities := hs.entities.sorted.filterMapValues _
  chunks := by
    refine ⟨hs.chunks.sorted.filterMapValues _, fun K c h => ?_⟩
    change s.chunks.view.find? K = some c at h
    rw [ChunkTracker.find?_view hs.chunks.sorted] at h
    obtain ⟨c₀, -, rfl⟩ := Option.map_eq_some_iff.mp h
    exact ChunkState.sorted_overrides _
  teams := hs.teams.sorted.filterMapValues _
  inventory := s.windows.sorted_inventory
  maps := hs.session.sorted

theorem Inv.mono (hs : s.Inv τ) {τ' : Int64} (hτ : τ ≤ τ') : s.Inv τ' :=
  { hs with
    world := fun r hr => ⟨(hs.world r hr).1, Int64.le_trans (hs.world r hr).2 hτ⟩
    entitiesUntil := fun e st h => (hs.entitiesUntil e st h).mono hτ
    chunksUntil := fun K c h => Int64.le_trans (hs.chunksUntil K c h) hτ
    snapshotUntil := fun m h => Int64.le_trans (hs.snapshotUntil m h) hτ
    respawned := fun T rs h =>
      ⟨Int64.le_trans (hs.respawned T rs h).1 hτ, (hs.respawned T rs h).2⟩ }

theorem SameState.view_eq (h : SameState s s') : s'.view = s.view := by
  simp only [view, h.entities, h.chunks, h.teams, h.session, h.windows]

theorem Inv.congr (hs : s.Inv τ) (h : SameState s s') : s'.Inv τ := by
  obtain ⟨h₁, h₂, h₃, h₄, h₅, h₆, h₇⟩ := h
  obtain ⟨⟩ := s
  obtain ⟨⟩ := s'
  simp only at h₁ h₂ h₃ h₄ h₅ h₆ h₇
  subst h₁ h₂ h₃ h₄ h₅ h₆ h₇
  exact { hs with }

theorem Steps.congr {r : TimedRecord} (h : Steps s r s') (h' : SameState s' s'') : Steps s r s'' :=
  ⟨h'.view_eq.trans h.view, h.inv.congr h'⟩

theorem Steps.of_same {s₀ : Squasher} {r : TimedRecord} (h₀ : SameState s s₀) (h : Steps s₀ r s') :
    Steps s r s' :=
  ⟨by rw [h.view, h₀.view_eq], h.inv⟩

/-- A record that changes nothing may be dropped. -/
theorem steps_of_inert (hs : s.Inv τ) {r : TimedRecord} (hτ : τ ≤ r.time) (hr : Inert r)
    (h : SameState s s') : Steps s r s' :=
  ⟨by rw [h.view_eq, apply_of_inert hr (wf_view hs)], (hs.mono hτ).congr h⟩

theorem steps_passThrough (hs : s.Inv τ) {time : Int64} (hτ : τ ≤ time) {rec : Record}
    (hr : Inert ⟨time, rec⟩) : Steps s ⟨time, rec⟩ (s.passThrough time rec) where
  view := (apply_of_inert hr (wf_view hs)).symm
  inv :=
    { hs.mono hτ with
      unhandled := fun x hx => (List.mem_append.mp hx).elim (hs.unhandled x)
        fun hx => List.mem_singleton.mp hx ▸ hr }

theorem sameState_booked (s : Squasher) (t : Int64) (q : SquashReport) :
    SameState s { s with lastTime := t, report := q } := ⟨rfl, rfl, rfl, rfl, rfl, rfl, rfl⟩

theorem sameState_note (s : Squasher) (n : SquashNote) : SameState s (s.note n) :=
  ⟨rfl, rfl, rfl, rfl, rfl, rfl, rfl⟩

section Trackers

variable (hs : s.Inv τ) {r : TimedRecord} (hτ : τ ≤ r.time)
include hs hτ

/-- A record that changes only live entities, taken in by the entity tracker. -/
theorem steps_entities {c : EntityChange} (hr : change r = { entities := c })
    {t : EntityTracker} (hview : t.view = c.run s.entities.view) (hvalid : t.Valid)
    (huntil : t.Until r.time) (hsince : ∀ T e, T ≤ r.time → s.entities.Since T e → t.Since T e) :
    Steps s r { s with entities := t } where
  view := by
    rw [apply_eq_run (wf_view hs).chunks, hr]
    simp only [view, hview]
    rfl
  inv :=
    { hs.mono hτ with
      destroyed := fun x hx ids hx' e he =>
        hsince _ e (Int64.le_trans (hs.world x hx).2 hτ) (hs.destroyed x hx ids hx' e he)
      entities := hvalid
      entitiesUntil := huntil
      respawned := fun T rs h => by
        obtain ⟨hT, he, hc⟩ := hs.respawned T rs h
        exact ⟨Int64.le_trans hT hτ, fun e => hsince T e (Int64.le_trans hT hτ) (he e), hc⟩ }

/-- A record that changes only loaded columns, taken in by the chunk tracker. -/
theorem steps_chunks {c : ChunkChange} (hr : change r = { chunks := c })
    {t : ChunkTracker} (hview : t.view = c.run s.chunks.view) (hvalid : t.Valid)
    (huntil : t.Until r.time) (hsince : ∀ T, T ≤ r.time → s.chunks.Since T → t.Since T) :
    Steps s r { s with chunks := t } where
  view := by
    rw [apply_eq_run (wf_view hs).chunks, hr]
    simp only [view, hview]
    rfl
  inv :=
    { hs.mono hτ with
      chunks := hvalid
      chunksUntil := huntil
      respawned := fun T rs h => by
        obtain ⟨hT, he, hc⟩ := hs.respawned T rs h
        exact ⟨Int64.le_trans hT hτ, he, hsince T (Int64.le_trans hT hτ) hc⟩ }

/-- A record that changes only the main inventory, taken in by the window tracker. -/
theorem steps_windows {c : InventoryChange} (hr : change r = { inventory := c })
    {w : WindowTracker} (hview : w.inventory = c.run s.windows.inventory) (hvalid : w.Valid)
    (hsnap : ∀ m, w.mainInventory = some m → m.time ≤ r.time) :
    Steps s r { s with windows := w } where
  view := by
    rw [apply_eq_run (wf_view hs).chunks, hr]
    simp only [view, hview]
    rfl
  inv := { hs.mono hτ with windows := hvalid, snapshotUntil := hsnap }

/-- A team record, taken in by the team tracker. -/
theorem steps_teams {d : TeamRecord} (hr : change r = { teams := some d }) {tt : TeamTracker}
    (hview : tt.view = (({ teams := s.teams.view } : ReplayView).team d).teams)
    (hvalid : tt.Valid) : Steps s r { s with teams := tt } where
  view := by
    rw [apply_eq_run (wf_view hs).chunks, hr]
    simp only [view, hview]
    rfl
  inv := { hs.mono hτ with teams := hvalid }

/-- A record that changes at most the session scalars and the maps, and no respawn. -/
theorem steps_session {ss : SessionState}
    (hview : s.view.apply r = { s.view with session := ss.view, maps := ss.maps })
    (hvalid : ss.Valid) (hrespawn : ss.respawn = s.session.respawn) :
    Steps s r { s with session := ss } where
  view := by
    rw [hview]
    rfl
  inv :=
    { hs.mono hτ with
      session := hvalid
      respawned := fun T rs h => (hs.mono hτ).respawned T rs (hrespawn ▸ h) }

end Trackers

/-- A record the current world keeps that changes nothing. -/
theorem steps_onWorld (hs : s.Inv τ) {time : Int64} (hτ : τ ≤ time) {rec : Record}
    (hr : Inert ⟨time, rec⟩) : Steps s ⟨time, rec⟩ (s.onWorld time rec) := by
  unfold onWorld
  split
  · exact steps_of_inert hs hτ hr ⟨rfl, rfl, rfl, rfl, rfl, rfl, rfl⟩
  · refine ⟨(apply_of_inert hr (wf_view hs)).symm, { hs.mono hτ with
      world := fun x hx => ?_, worldOrdered := ?_, destroyed := fun x hx ids hx' => ?_ }⟩
    · rcases List.mem_append.mp hx with hx | hx
      · exact ⟨(hs.world x hx).1, Int64.le_trans (hs.world x hx).2 hτ⟩
      · rw [List.mem_singleton.mp hx]
        exact ⟨.inl hr, Int64.le_refl _⟩
    · rw [List.pairwise_append]
      refine ⟨hs.worldOrdered, List.pairwise_singleton _ _, fun x hx y hy => ?_⟩
      rw [List.mem_singleton.mp hy]
      exact Int64.le_trans (hs.world x hx).2 hτ
    · rcases List.mem_append.mp hx with hx | hx
      · exact hs.destroyed x hx ids hx'
      · rw [List.mem_singleton.mp hx, hr] at hx'
        cases hx'

/-- A destroy forgets the entities it names, and the current world keeps it. -/
theorem steps_destroy (hs : s.Inv τ) {time : Int64} (hτ : τ ≤ time) (d : Destroy) :
    Steps s ⟨time, .typed (.destroy d)⟩
      { s with
        entities := s.entities.onDestroy d.entityIds
        currentWorld := s.currentWorld ++ [⟨time, .typed (.destroy d)⟩] } where
  view := by
    rw [apply_eq_run (wf_view hs).chunks]
    simp only [view, EntityTracker.view_onDestroy hs.entities.sorted]
    rfl
  inv :=
    { hs.mono hτ with
      world := by
        intro x hx
        rcases List.mem_append.mp hx with hx | hx
        · exact ⟨(hs.world x hx).1, Int64.le_trans (hs.world x hx).2 hτ⟩
        · rw [List.mem_singleton.mp hx]
          exact ⟨.inr ⟨_, rfl⟩, Int64.le_refl _⟩
      worldOrdered := by
        rw [List.pairwise_append]
        refine ⟨hs.worldOrdered, List.pairwise_singleton _ _, fun x hx y hy => ?_⟩
        rw [List.mem_singleton.mp hy]
        exact Int64.le_trans (hs.world x hx).2 hτ
      destroyed := by
        intro x hx ids hx' e he
        rcases List.mem_append.mp hx with hx | hx
        · exact (hs.destroyed x hx ids hx' e he).onDestroy _
        · rw [List.mem_singleton.mp hx] at hx' ⊢
          have hids : d.entityIds = ids := by
            simp only [change, payloadChange, Change.mk.injEq, EntityChange.erase.injEq] at hx'
            exact hx'.1
          exact EntityTracker.since_onDestroy _ _ (hids ▸ he)
      entities := hs.entities.onDestroy _
      entitiesUntil := (hs.entitiesUntil.onDestroy _).mono hτ
      respawned := fun T rs h => by
        obtain ⟨hT, he, hc⟩ := hs.respawned T rs h
        exact ⟨Int64.le_trans hT hτ, fun e => (he e).onDestroy _, hc⟩ }

/-- A respawn sets the scalars and discards the world the client leaves. -/
theorem steps_respawn (hs : s.Inv τ) {time : Int64} (hτ : τ ≤ time) (rs : Respawn) :
    Steps s ⟨time, .typed (.respawn rs)⟩ ({ s with session := s.session.onRespawn time rs }.resetWorld) where
  view := rfl
  inv :=
    { unhandled := hs.unhandled
      world := fun _ h => by cases h
      worldOrdered := .nil
      destroyed := fun _ h => by cases h
      entities := ⟨KeyMap.sorted_empty, fun _ _ h => (by cases h), fun _ h => (by cases h)⟩
      entitiesUntil := fun _ _ h => by cases h
      chunks := ⟨KeyMap.sorted_empty, KeyMap.sorted_empty, fun _ _ h => (by cases h),
        fun _ _ h => (by cases h)⟩
      chunksUntil := fun _ _ h => by cases h
      windows := hs.windows.clearCurrent
      snapshotUntil := fun m h => Int64.le_trans (hs.snapshotUntil m h) hτ
      teams := hs.teams
      session := hs.session.onRespawn time rs
      respawned := fun T rs' h => by
        cases h
        exact ⟨Int64.le_refl _, fun _ _ h => (by cases h), ⟨fun _ _ h => (by cases h),
          fun _ _ h => (by cases h)⟩⟩ }

theorem steps_onEntity (hs : s.Inv τ) {time : Int64} (hτ : τ ≤ time) {p : Payload}
    (hd : p.kind.domain = .entity) : Steps s ⟨time, .typed p⟩ (s.onEntity time (.typed p)) := by
  have hsorted := hs.entities.sorted
  unfold onEntity
  split
  · next href => exact absurd href (entityRef_ne_none hd)
  · next ids href =>
    split
    · next d heq =>
      cases heq
      simp only [Record.entityRef, EntityRef.multiple.injEq] at href
      subst href
      exact steps_destroy hs hτ d
    · next hnd =>
      have hr := inert_of_multiple time href fun d h => hnd d (by rw [h])
      exact steps_entities hs hτ hr (EntityTracker.view_onShared hsorted ids _)
        (hs.entities.onShared ids hr) ((hs.entitiesUntil.onShared ids _).mono hτ)
        fun T e _ h => h.onShared ids _
  · next id href =>
    split
    · next m heq =>
      cases heq
      exact steps_entities hs hτ (c := .at m.entityId (Option.map (·.moved m))) rfl
        (EntityTracker.view_onMovement hsorted time m)
        (hs.entities.onMovement hs.entitiesUntil hτ m) (hs.entitiesUntil.onMovement hτ m)
        fun T e hT h => h.onMovement hT m
    · next tp heq =>
      cases heq
      exact steps_entities hs hτ (c := .at tp.entityId (Option.map fun _ => .ofLocation tp.location))
        rfl (EntityTracker.view_onTeleport hsorted time tp)
        (hs.entities.onTeleport hs.entitiesUntil hτ tp) (hs.entitiesUntil.onTeleport hτ tp)
        fun T e hT h => h.onTeleport hT tp
    · next p' hm ht heq =>
      cases heq
      split
      · next hspawn =>
        obtain ⟨ev, hv, hr⟩ := spawn_change time href hspawn
        have hown : EntityState.OwnRecord id ⟨time, .typed p⟩ := by
          rw [EntityState.OwnRecord, hv]
          exact hr
        exact steps_entities hs hτ hr (EntityTracker.view_onSpawn hsorted id hv)
          (hs.entities.onSpawn hs.entitiesUntil id hτ hown) (hs.entitiesUntil.onSpawn id hτ)
          fun T e hT h => h.onSpawn id hT
      · next hspawn =>
        obtain ⟨hr, hv⟩ := inert_of_single time href (Bool.eq_false_iff.mpr hspawn)
          (fun m h => hm m (by rw [h])) (fun tp h => ht tp (by rw [h]))
        have hown : EntityState.OwnRecord id ⟨time, .typed p⟩ := by
          rw [EntityState.OwnRecord, hv]
          exact hr
        exact steps_entities hs hτ hr (EntityTracker.view_onGeneric hsorted id hv)
          (hs.entities.onGeneric hs.entitiesUntil id hτ hown) (hs.entitiesUntil.onGeneric id hτ)
          fun T e hT h => h.onGeneric id hT
    · next heq => cases heq

section ChunkRecords

variable {time : Int64}

theorem foldl_onColumn_view :
    ∀ (cs : List ChunkColumn) {t : ChunkTracker}, t.Valid →
      (cs.foldl (·.onColumn time ·) t).view = (ChunkChange.columns cs).run t.view ∧
        (cs.foldl (·.onColumn time ·) t).Valid
  | [], _, ht => ⟨rfl, ht⟩
  | c :: rest, t, ht => by
    obtain ⟨hview, hvalid⟩ := foldl_onColumn_view rest (ht.onColumn time c)
    refine ⟨?_, hvalid⟩
    rw [List.foldl_cons, hview, ChunkTracker.view_onColumn ht.tracks time c]
    rfl

theorem until_foldl_onColumn :
    ∀ (cs : List ChunkColumn) {t : ChunkTracker} {τ : Int64}, t.Until τ → τ ≤ time →
      (cs.foldl (·.onColumn time ·) t).Until time
  | [], _, _, hu, hτ => hu.mono hτ
  | c :: rest, _, _, hu, hτ => until_foldl_onColumn rest (hu.onColumn hτ c) (Int64.le_refl _)

theorem since_foldl_onColumn {T : Int64} (hT : T ≤ time) :
    ∀ (cs : List ChunkColumn) {t : ChunkTracker}, t.Since T → (cs.foldl (·.onColumn time ·) t).Since T
  | [], _, hs => hs
  | c :: rest, _, hs => since_foldl_onColumn hT rest (hs.onColumn hT c)

theorem foldl_onBlock_view :
    ∀ (cs : List BlockChange) {t : ChunkTracker}, t.Valid → t.Until time →
      (cs.foldl (fun t c => (t.onBlock time c).1) t).view = (ChunkChange.blocks time cs).run t.view ∧
        (cs.foldl (fun t c => (t.onBlock time c).1) t).Valid
  | [], _, ht, _ => ⟨rfl, ht⟩
  | c :: rest, t, ht, hu => by
    obtain ⟨hview, hvalid⟩ := foldl_onBlock_view rest (ht.onBlock c fun c' h => hu _ c' h)
      (hu.onBlock time c)
    refine ⟨?_, hvalid⟩
    rw [List.foldl_cons, hview, ChunkTracker.view_onBlock ht.tracks time c]
    rfl

theorem until_foldl_onBlock {τ : Int64} :
    ∀ (cs : List BlockChange) {t : ChunkTracker}, t.Until τ →
      (cs.foldl (fun t c => (t.onBlock time c).1) t).Until τ
  | [], _, hu => hu
  | c :: rest, _, hu => until_foldl_onBlock rest (hu.onBlock time c)

theorem since_foldl_onBlock {T : Int64} :
    ∀ (cs : List BlockChange) {t : ChunkTracker}, t.Since T →
      (cs.foldl (fun t c => (t.onBlock time c).1) t).Since T
  | [], _, hs => hs
  | c :: rest, _, hs => since_foldl_onBlock rest (hs.onBlock time c)

/-- Taking in a block change rewrites the chunk tracker and at most the bookkeeping. -/
theorem sameState_onBlock (s : Squasher) (c : BlockChange) :
    SameState { s with chunks := (s.chunks.onBlock time c).1 } (s.onBlock time c) := by
  unfold Squasher.onBlock
  dsimp only
  split <;> exact ⟨rfl, rfl, rfl, rfl, rfl, rfl, rfl⟩

theorem sameState_foldl_onBlock :
    ∀ (cs : List BlockChange) (s : Squasher),
      SameState { s with chunks := cs.foldl (fun t c => (t.onBlock time c).1) s.chunks }
        (cs.foldl (·.onBlock time ·) s)
  | [], _ => ⟨rfl, rfl, rfl, rfl, rfl, rfl, rfl⟩
  | c :: rest, s => by
    have h₁ : SameState { s with chunks := (s.chunks.onBlock time c).1 } (s.onBlock time c) :=
      sameState_onBlock s c
    have h₂ := sameState_foldl_onBlock rest (s.onBlock time c)
    refine ⟨h₂.unhandled.trans h₁.unhandled, h₂.currentWorld.trans h₁.currentWorld,
      h₂.entities.trans h₁.entities, ?_, h₂.windows.trans h₁.windows, h₂.teams.trans h₁.teams,
      h₂.session.trans h₁.session⟩
    rw [List.foldl_cons, h₂.chunks, h₁.chunks]
    rfl

end ChunkRecords

theorem steps_onChunk (hs : s.Inv τ) {time : Int64} (hτ : τ ≤ time) {p : Payload}
    (hd : p.kind.domain = .chunk) : Steps s ⟨time, .typed p⟩ (s.onChunk time (.typed p)) := by
  unfold onChunk
  split
  · next c heq =>
    cases heq
    exact steps_chunks hs hτ (c := .column c) rfl (ChunkTracker.view_onColumn hs.chunks.tracks time c)
      (hs.chunks.onColumn time c) (hs.chunksUntil.onColumn hτ c) fun T hT h => h.onColumn hT c
  · next d heq =>
    cases heq
    obtain ⟨hview, hvalid⟩ := foldl_onColumn_view d.columns hs.chunks
    exact steps_chunks hs hτ (c := .columns d.columns) rfl hview hvalid
      (until_foldl_onColumn d.columns hs.chunksUntil hτ)
      fun T hT h => since_foldl_onColumn hT d.columns h
  · next c heq =>
    cases heq
    have hu := hs.chunksUntil.mono hτ
    exact (steps_chunks hs hτ (c := .block time c) rfl (ChunkTracker.view_onBlock hs.chunks.tracks time c)
      (hs.chunks.onBlock c fun c' h => hu _ c' h) (hu.onBlock time c)
      fun T _ h => h.onBlock time c).congr (sameState_onBlock s c)
  · next d heq =>
    cases heq
    have hu := hs.chunksUntil.mono hτ
    obtain ⟨hview, hvalid⟩ := foldl_onBlock_view d.records hs.chunks hu
    exact (steps_chunks hs hτ (c := .blocks time d.records) rfl hview hvalid
      (until_foldl_onBlock d.records hu) fun T _ h => since_foldl_onBlock d.records h).congr
      (sameState_foldl_onBlock d.records s)
  · exfalso
    cases p <;> simp_all [Payload.kind, RecordKind.domain]

theorem steps_onSecondary (hs : s.Inv τ) {r : TimedRecord} (hτ : τ ≤ r.time) (hr : Inert r) :
    Steps s r { s with windows := s.windows.onSecondary r } :=
  steps_windows hs hτ (c := .keep) hr rfl (hs.windows.onSecondary hr)
    fun m h => Int64.le_trans (hs.snapshotUntil m h) hτ

theorem steps_onWindow (hs : s.Inv τ) {time : Int64} (hτ : τ ≤ time) {rec : Record}
    (hd : rec.kind.domain = .window) : Steps s ⟨time, rec⟩ (s.onWindow time rec) := by
  have hsnap := fun m h => Int64.le_trans (hs.snapshotUntil m h) hτ
  unfold onWindow
  dsimp only
  split
  · next d =>
    have hr : Inert ⟨time, .typed (.closeWindow d)⟩ := rfl
    exact steps_windows hs hτ (c := .keep) hr rfl (hs.windows.onClose hr) hsnap
  · next w =>
    split
    · next hmain =>
      have hr := change_windowItems_main time hmain
      refine steps_windows hs hτ hr ?_ (hs.windows.onMainInventory hr)
        fun m h => by cases h; exact Int64.le_refl _
      rw [WindowTracker.inventory_onMainInventory, hr]
      rfl
    · next hmain =>
      have hr := inert_windowItems time (Bool.eq_false_iff.mpr hmain)
      split
      · exact steps_of_inert hs hτ hr ⟨rfl, rfl, rfl, rfl, rfl, rfl, rfl⟩
      · exact steps_onSecondary hs hτ hr
  · next d =>
    split
    · next hmain =>
      have hr := change_setSlot_main time hmain
      exact steps_windows hs hτ hr (WindowTracker.inventory_onMainSlot hs.windows.sorted d.slot _)
        (hs.windows.onMainSlot d.slot hr hsnap) hsnap
    · next hmain =>
      have hr := inert_setSlot time (Bool.eq_false_iff.mpr hmain)
      split
      · exact steps_of_inert hs hτ hr ⟨rfl, rfl, rfl, rfl, rfl, rfl, rfl⟩
      · exact steps_onSecondary hs hτ hr
  · next hc hw hslot =>
    have hr := inert_of_window time hd hw hslot
    split
    · exact steps_of_inert hs hτ hr ⟨rfl, rfl, rfl, rfl, rfl, rfl, rfl⟩
    · exact steps_onSecondary hs hτ hr

theorem steps_onSession (hs : s.Inv τ) {time : Int64} (hτ : τ ≤ time) {p : Payload}
    (hd : p.kind.domain = .session) : Steps s ⟨time, .typed p⟩ (s.onSession time (.typed p)) := by
  have hwf := wf_view hs
  unfold onSession
  split
  · next j heq =>
    cases heq
    exact steps_session hs hτ (by rw [apply_eq_run hwf.chunks]; rfl) (hs.session.onJoin time j) rfl
  · next r heq =>
    cases heq
    exact steps_respawn hs hτ r
  · next m heq =>
    cases heq
    exact steps_session hs hτ (by rw [apply_eq_run hwf.chunks]; rfl) (hs.session.onGameMode m) rfl
  · next e heq =>
    cases heq
    exact steps_session hs hτ (by rw [apply_eq_run hwf.chunks]; rfl) (hs.session.onExperience e) rfl
  · next a heq =>
    cases heq
    exact steps_session hs hτ (by rw [apply_eq_run hwf.chunks]; rfl) (hs.session.onAbilities a) rfl
  · next m heq =>
    cases heq
    exact steps_session hs hτ (by rw [apply_eq_run hwf.chunks]; rfl) (hs.session.onMap m) rfl
  · next hj hr hg _ _ hm =>
    exact steps_passThrough hs hτ (inert_of_session time hd hj hr hg hm)

/-- Taking in a record moves the squasher as replaying it moves a view, when the record is no
older than those before it and a team record fits the teams. -/
theorem steps_consume (hs : s.Inv τ) {r : TimedRecord} (hτ : τ ≤ r.time)
    (hfit : r.fitsTeams s.view = true) : Steps s r (s.consume r) := by
  obtain ⟨time, rec⟩ := r
  have hb := sameState_booked s time { s.report with recordsConsumed := s.report.recordsConsumed + 1 }
  have hs' := hs.congr hb
  unfold consume
  cases rec with
  | raw kind data =>
    have hr := inert_raw time kind data
    dsimp only
    split
    · exact Steps.of_same hb ((steps_passThrough hs' hτ hr).congr
        ⟨rfl, rfl, rfl, rfl, rfl, rfl, rfl⟩)
    · split
      · exact Steps.of_same hb (steps_onWorld hs' hτ hr)
      · next hd => exact Steps.of_same hb (steps_onWindow hs' hτ hd)
      · exact Steps.of_same hb (steps_passThrough hs' hτ hr)
  | typed p =>
    dsimp only
    split
    · next hd => exact Steps.of_same hb (steps_onEntity hs' hτ hd)
    · next hd => exact Steps.of_same hb (steps_onChunk hs' hτ hd)
    · next hd => exact Steps.of_same hb (steps_onWorld hs' hτ (inert_of_world time hd))
    · next hd => exact Steps.of_same hb (steps_onWindow hs' hτ hd)
    · next hd =>
      split
      · next d =>
        have hr : change ⟨time, .typed (.team d)⟩ = { teams := some d } := rfl
        exact Steps.of_same hb (steps_teams hs' hτ hr (TeamTracker.view_onTeam hs.teams hfit)
          (hs.teams.onTeam hfit))
      · next hne =>
        exfalso
        cases p <;> simp_all [Payload.kind, RecordKind.domain]
    · next hd => exact Steps.of_same hb (steps_onSession hs' hτ hd)
    · next hd => exact Steps.of_same hb (steps_passThrough hs' hτ (inert_of_other time hd))

end Squasher

end SessionSquash
