import SessionSquash.Proofs.Squash.Routing

namespace SessionSquash

set_option autoImplicit false

open ReplayView EntityState

namespace EntityTracker

variable {t : EntityTracker}

theorem coherent_empty : ({} : EntityTracker).Coherent where
  sorted := KeyMap.sorted_empty
  own _ _ h := by cases h
  slots _ h := absurd h List.not_mem_nil

theorem view_empty : ({} : EntityTracker).view = {} := rfl

/-- The queue of a fresh state holds nothing. -/
theorem own_empty (e : Int32) : ∀ r ∈ ownRecords ({} : EntityState).queue, OwnRecord e r :=
  fun _ h => by simp [ownRecords] at h

theorem Coherent.modify_push (ht : t.Coherent) {id : Int32} {r : TimedRecord}
    {f : EntityState → EntityState} (hf : Pushes r f) (hr : OwnRecord id r) :
    (t.modify id f).Coherent where
  sorted := sorted_modify ht.sorted id f
  own := forall_modify (P := fun e st => ∀ x ∈ ownRecords st.queue, OwnRecord e x) ht.own
    (own_empty id) (fun _ _ h => h) fun st h x hx => by
      rw [(hf st).1, List.mem_append, List.mem_singleton] at hx
      rcases hx with hx | rfl
      · exact h x hx
      · exact hr
  slots := ht.slots

theorem Coherent.modify_move (ht : t.Coherent) {id : Int32} {time : Int64}
    {f : EntityState → EntityState} (hf : Moves time f) : (t.modify id f).Coherent where
  sorted := sorted_modify ht.sorted id f
  own := forall_modify (P := fun e st => ∀ x ∈ ownRecords st.queue, OwnRecord e x) ht.own
    (own_empty id) (fun _ _ h => h) fun st h => by rw [(hf st).1]; exact h
  slots := ht.slots

theorem Coherent.onSpawn (ht : t.Coherent) (id : Int32) {r : TimedRecord} (hr : OwnRecord id r) :
    (t.onSpawn id r).Coherent :=
  ht.modify_push (fun _ => ⟨ownRecords_append_own _ _, rfl⟩) hr

theorem Coherent.onGeneric (ht : t.Coherent) (id : Int32) {r : TimedRecord}
    (hr : OwnRecord id r) : (t.onGeneric id r).Coherent :=
  ht.modify_push (fun _ => ⟨ownRecords_append_own _ _, rfl⟩) hr

theorem Coherent.onMovement (ht : t.Coherent) (time : Int64) (m : Movement) :
    (t.onMovement time m).Coherent := by
  obtain ⟨f, hf, heq⟩ := moves_onMovement (t := t) time m
  rw [heq]
  exact ht.modify_move hf

theorem Coherent.onTeleport (ht : t.Coherent) (time : Int64) (tp : Teleport) :
    (t.onTeleport time tp).Coherent :=
  ht.modify_move (fun _ => ⟨rfl, rfl⟩)

theorem Coherent.onShared (ht : t.Coherent) (ids : List Int32) {r : TimedRecord}
    (hr : Inert r) : (t.onShared ids r).Coherent := by
  rw [onShared_eq]
  refine ⟨sorted_foldl_share _ ids _ ht.sorted,
    forall_foldl_share (P := fun e st => ∀ x ∈ ownRecords st.queue, OwnRecord e x) _ own_empty
      (fun _ _ h => by rwa [ownRecords_shareStep]) ids _ ht.own, ?_⟩
  rw [foldl_share_shared]
  exact ht.slots.push hr

theorem Coherent.onDestroy (ht : t.Coherent) (ids : List Int32) : (t.onDestroy ids).Coherent where
  sorted := ht.sorted.foldl_erase ids
  own e st h := by
    rw [find?_onDestroy] at h
    split at h
    · cases h
    · exact ht.own e st h
  slots := ht.slots

end EntityTracker

namespace Squasher

variable {s : Squasher}

/-- Routing an entity record keeps the tracker coherent and rewrites its view as the record's
change rewrites the live entities, whatever the record's time. -/
theorem entities_onEntity (hs : s.entities.Coherent) (time : Int64) {p : Payload}
    (hd : p.kind.domain = .entity) :
    (s.onEntity time (.typed p)).entities.Coherent ∧
      (s.onEntity time (.typed p)).entities.view =
        (change ⟨time, .typed p⟩).entities.run s.entities.view := by
  have hsorted := hs.sorted
  unfold onEntity
  split
  · next href => exact absurd href (entityRef_ne_none hd)
  · next ids href =>
    split
    · next d heq =>
      cases heq
      simp only [Record.entityRef, EntityRef.multiple.injEq] at href
      subst href
      exact ⟨hs.onDestroy _, EntityTracker.view_onDestroy hsorted _⟩
    · next hnd =>
      have hr := inert_of_multiple time href fun d h => hnd d (by rw [h])
      refine ⟨hs.onShared ids hr, ?_⟩
      rw [show change _ = {} from hr]
      exact EntityTracker.view_onShared hsorted ids _
  · next id href =>
    split
    · next m heq =>
      cases heq
      exact ⟨hs.onMovement time m, EntityTracker.view_onMovement hsorted time m⟩
    · next tp heq =>
      cases heq
      exact ⟨hs.onTeleport time tp, EntityTracker.view_onTeleport hsorted time tp⟩
    · next p' hm ht heq =>
      cases heq
      split
      · next hspawn =>
        obtain ⟨ev, hv, hr⟩ := spawn_change time href hspawn
        have hown : EntityState.OwnRecord id ⟨time, .typed p⟩ := by
          rw [EntityState.OwnRecord, hv]
          exact hr
        refine ⟨hs.onSpawn id hown, ?_⟩
        rw [hr]
        exact EntityTracker.view_onSpawn hsorted id hv
      · next hspawn =>
        obtain ⟨hr, hv⟩ := inert_of_single time href (Bool.eq_false_iff.mpr hspawn)
          (fun m h => hm m (by rw [h])) (fun tp h => ht tp (by rw [h]))
        have hown : EntityState.OwnRecord id ⟨time, .typed p⟩ := by
          rw [EntityState.OwnRecord, hv]
          exact hr
        refine ⟨hs.onGeneric id hown, ?_⟩
        rw [show change _ = {} from hr]
        exact EntityTracker.view_onGeneric hsorted id hv
    · next heq => cases heq

/-- Taking in a record of the entity domain does to the tracker's view what replaying the record
does to the live entities. An undecoded one reaches no tracker and changes nothing. -/
theorem entities_consume (hs : s.entities.Coherent) {r : TimedRecord}
    (hd : r.record.kind.domain = .entity) :
    (s.consume r).entities.Coherent ∧
      (s.consume r).entities.view = (change r).entities.run s.entities.view := by
  obtain ⟨time, rec⟩ := r
  unfold consume
  cases rec with
  | raw kind data =>
    dsimp only
    split
    · exact ⟨hs, rfl⟩
    · split
      · next hw =>
        simp only [Record.kind] at hd
        rw [hd] at hw
        cases hw
      · next hw =>
        simp only [Record.kind] at hd
        rw [hd] at hw
        cases hw
      · exact ⟨hs, rfl⟩
  | typed p =>
    simp only [Record.kind] at hd
    dsimp only
    split
    · refine entities_onEntity ?_ time hd
      exact hs
    all_goals next hd' => rw [hd] at hd'; cases hd'

/-- The tracker follows the live entities of the replay, record after record. -/
theorem entities_consumeAll :
    ∀ (records : List TimedRecord), (∀ r ∈ records, r.record.kind.domain = .entity) →
      ∀ (s : Squasher) {v : ReplayView}, s.entities.Coherent → v.WF → s.entities.view = v.entities →
        (s.consumeAll records).entities.Coherent ∧
          (s.consumeAll records).entities.view = (records.foldl ReplayView.apply v).entities
  | [], _, _, _, hs, _, hv => ⟨hs, hv⟩
  | r :: rest, hd, s, v, hs, hw, hv => by
    obtain ⟨hs', hview⟩ := entities_consume hs (hd r List.mem_cons_self)
    have hstep : (s.consume r).entities.view = (v.apply r).entities := by
      rw [hview, hv, apply_eq_run hw.chunks]
      rfl
    exact entities_consumeAll rest (fun x hx => hd x (List.mem_cons_of_mem r hx)) (s.consume r)
      hs' (hw.apply r) hstep

end Squasher

/-- The entity tracker simulates the entity replay: fed the entity records of a recording as the
squasher routes them, at any times and for any ids, it synthesizes records that replay, from an
empty view, to exactly the live entities the recording replays to: the same ids, the same
fixed-point positions and the same bits of yaw and pitch. -/
theorem replay_entity_synthesize (records : List TimedRecord)
    (hent : ∀ r ∈ records, r.record.kind.domain = .entity) (config : SquashConfig) :
    (replay ((Squasher.new config).consumeAll records).entities.synthesize).entities =
      (replay records).entities := by
  obtain ⟨hc, hview⟩ := Squasher.entities_consumeAll records hent (Squasher.new config)
    EntityTracker.coherent_empty wf_empty EntityTracker.view_empty
  rw [replay, hc.foldl_apply_synthesize wf_empty rfl]
  exact hview

/-- An orb spawned at time 9, moved ten blocks and turned at time 2, a mob destroyed before it
was spawned, and a teleport of an entity never spawned. -/
def entitiesOutOfOrder : List TimedRecord :=
  [⟨9, .typed (.spawnExpOrb ⟨7, Binary64.zero, Binary64.zero, Binary64.zero, 1⟩)⟩,
    ⟨2, .typed (.movement ⟨7, .positionRotation, Binary64.ofNat 10, Binary64.zero,
      Binary64.zero, Binary32.zero, Binary32.zero, true⟩)⟩,
    ⟨4, .typed (.destroy ⟨[8]⟩)⟩,
    ⟨6, .typed (.spawnMob ⟨8, 50, Location.mk Binary64.zero Binary64.zero Binary64.zero
      Binary32.zero Binary32.zero, Binary32.zero, (Binary64.zero, Binary64.zero, Binary64.zero),
      []⟩)⟩,
    ⟨1, .typed (.teleport ⟨3, Location.mk Binary64.zero Binary64.zero Binary64.zero
      Binary32.zero Binary32.zero, false⟩)⟩]

theorem replay_entity_synthesize_entitiesOutOfOrder :
    (∀ r ∈ entitiesOutOfOrder, r.record.kind.domain = .entity) ∧
      (replay ((Squasher.new {}).consumeAll entitiesOutOfOrder).entities.synthesize).entities =
        (replay entitiesOutOfOrder).entities :=
  have hent : ∀ r ∈ entitiesOutOfOrder, r.record.kind.domain = .entity := by decide
  ⟨hent, replay_entity_synthesize entitiesOutOfOrder hent {}⟩

end SessionSquash
