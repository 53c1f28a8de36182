import SessionSquash.Proofs.Squash.Entities

namespace SessionSquash

set_option autoImplicit false

/-- The moves that drain one axis: at most 127 units up, or 128 down, at a time. -/
def axisMoves (x : Int) : Nat :=
  if 0 ≤ x then (x.toNat + 126) / 127 else (x.natAbs + 127) / 128

/-- The moves that drain a delta: as many as its slowest axis needs. -/
def drainMoves (d : Int × Int × Int) : Nat :=
  max (axisMoves d.1) (max (axisMoves d.2.1) (axisMoves d.2.2))

/-- A step a movement record can carry on every axis. -/
def StepFits (s : Int × Int × Int) : Prop :=
  (-128 ≤ s.1 ∧ s.1 ≤ 127) ∧ (-128 ≤ s.2.1 ∧ s.2.1 ≤ 127) ∧ (-128 ≤ s.2.2 ∧ s.2.2 ≤ 127)

theorem axisMoves_eq_zero_iff (x : Int) : axisMoves x = 0 ↔ x = 0 := by
  unfold axisMoves
  split <;> omega

/-- One clamped step takes one move off an axis, or none off a drained one. -/
theorem axisMoves_sub_clampStep (x : Int) : axisMoves (x - clampStep x) = axisMoves x - 1 := by
  unfold axisMoves clampStep
  split <;> split <;> omega

/-- The drain takes exactly as many moves as its slowest axis needs. -/
theorem length_drainSteps (d : Int × Int × Int) : (drainSteps d).length = drainMoves d := by
  fun_induction drainSteps d with
  | case1 d h =>
    obtain ⟨h1, h2, h3⟩ := h
    simp [drainMoves, h1, h2, h3, axisMoves]
  | case2 d hne step ih =>
    simp only [step] at ih
    rw [List.length_cons, ih]
    simp only [drainMoves, axisMoves_sub_clampStep]
    have h1 := axisMoves_eq_zero_iff d.1
    have h2 := axisMoves_eq_zero_iff d.2.1
    have h3 := axisMoves_eq_zero_iff d.2.2
    omega

/-- Steps of at most 127 up and 128 down need at least `axisMoves` of their sum. -/
theorem axisMoves_sum_le {α : Type} (L : List α) (f : α → Int)
    (h : ∀ s ∈ L, -128 ≤ f s ∧ f s ≤ 127) : axisMoves (L.map f).sum ≤ L.length := by
  have hb : ∀ x ∈ L.map f, -128 ≤ x ∧ x ≤ 127 := List.forall_mem_map.mpr h
  have hup := List.sum_le_card_nsmul _ 127 fun x hx => (hb x hx).2
  have hdown := List.card_nsmul_le_sum _ (-128) fun x hx => (hb x hx).1
  rw [nsmul_eq_mul, List.length_map] at hup hdown
  unfold axisMoves
  split <;> omega

/-- No list of steps a movement record can carry covers a delta in fewer moves than the
drain. -/
theorem length_drainSteps_le_of_fits {d : Int × Int × Int} {L : List (Int × Int × Int)}
    (hfit : ∀ s ∈ L, StepFits s) (hx : (L.map (·.1)).sum = d.1)
    (hy : (L.map (·.2.1)).sum = d.2.1) (hz : (L.map (·.2.2)).sum = d.2.2) :
    (drainSteps d).length ≤ L.length := by
  have ax := axisMoves_sum_le L (·.1) fun s hs => (hfit s hs).1
  have ay := axisMoves_sum_le L (·.2.1) fun s hs => (hfit s hs).2.1
  have az := axisMoves_sum_le L (·.2.2) fun s hs => (hfit s hs).2.2
  rw [hx] at ax
  rw [hy] at ay
  rw [hz] at az
  rw [length_drainSteps, drainMoves]
  omega

/-- Replaying one drained step moves a live entity by the step, on every axis. -/
theorem find?_apply_stepRecord (v : ReplayView) (time : Int64) (id : Int32)
    {s : Int × Int × Int} (hs : StepFits s) :
    (v.apply (EntityState.stepRecord time id s)).entities.find? id =
      (v.entities.find? id).map fun e => { e with position :=
        (e.position.1 + Int64.ofInt s.1, e.position.2.1 + Int64.ofInt s.2.1,
          e.position.2.2 + Int64.ofInt s.2.2) } := by
  obtain ⟨⟨hx₁, hx₂⟩, ⟨hy₁, hy₂⟩, ⟨hz₁, hz₂⟩⟩ := hs
  cases he : v.entities.find? id with
  | none => simp [ReplayView.apply, EntityState.stepRecord, EntityState.movementRecord,
      ReplayView.moveBy, he]
  | some e =>
    simp [ReplayView.apply, EntityState.stepRecord, EntityState.movementRecord,
      ReplayView.moveBy, he, MovementKind.carriesPosition, MovementKind.carriesRotation,
      toFixed_fromFixed hx₁ hx₂, toFixed_fromFixed hy₁ hy₂, toFixed_fromFixed hz₁ hz₂]

/-- Replaying drained steps moves a live entity by their sums, wrapping as the view does. -/
theorem find?_foldl_apply_stepRecords (time : Int64) (id : Int32) :
    ∀ (steps : List (Int × Int × Int)), (∀ s ∈ steps, StepFits s) → ∀ v : ReplayView,
      ((steps.map (EntityState.stepRecord time id)).foldl ReplayView.apply v).entities.find? id =
        (v.entities.find? id).map fun e => { e with position :=
          (e.position.1 + Int64.ofInt (steps.map (·.1)).sum,
            e.position.2.1 + Int64.ofInt (steps.map (·.2.1)).sum,
            e.position.2.2 + Int64.ofInt (steps.map (·.2.2)).sum) }
  | [], _, v => by simp
  | s :: rest, hs, v => by
    rw [List.map_cons, List.foldl_cons,
      find?_foldl_apply_stepRecords time id rest (fun x hx => hs x (List.mem_cons_of_mem s hx)),
      find?_apply_stepRecord v time id (hs s List.mem_cons_self)]
    cases v.entities.find? id <;> simp [Int64.add_assoc, Int64.ofInt_add]

/-- Draining a delta is exact, bounded, minimal and replays to the delta: the moves number as
many as the slowest axis needs (up to 127 units a move, down 128), each step fits a movement
record and survives the trip through its doubles, the steps add up to the delta on every axis,
replaying them moves a live entity by exactly the delta, and no shorter list of steps that fit
covers it. The tracker drains the integer value of its 64-bit delta. -/
theorem drainSteps_exact (d : Int × Int × Int) :
    (drainSteps d).length = drainMoves d ∧
      (∀ s ∈ drainSteps d, StepFits s ∧ toFixed (fromFixed s.1) = Int64.ofInt s.1 ∧
        toFixed (fromFixed s.2.1) = Int64.ofInt s.2.1 ∧
        toFixed (fromFixed s.2.2) = Int64.ofInt s.2.2) ∧
      (((drainSteps d).map (·.1)).sum = d.1 ∧ ((drainSteps d).map (·.2.1)).sum = d.2.1 ∧
        ((drainSteps d).map (·.2.2)).sum = d.2.2) ∧
      (∀ (time : Int64) (id : Int32) (v : ReplayView),
        (((drainSteps d).map (EntityState.stepRecord time id)).foldl ReplayView.apply v).entities.find?
            id =
          (v.entities.find? id).map fun e => { e with position :=
            (e.position.1 + Int64.ofInt d.1, e.position.2.1 + Int64.ofInt d.2.1,
              e.position.2.2 + Int64.ofInt d.2.2) }) ∧
      ∀ L : List (Int × Int × Int), (∀ s ∈ L, StepFits s) → (L.map (·.1)).sum = d.1 →
        (L.map (·.2.1)).sum = d.2.1 → (L.map (·.2.2)).sum = d.2.2 →
        (drainSteps d).length ≤ L.length := by
  have hfit : ∀ s ∈ drainSteps d, StepFits s := fun s hs => mem_drainSteps_bounds hs
  obtain ⟨hx, hy, hz⟩ := sum_drainSteps d
  refine ⟨length_drainSteps d, fun s hs => ?_, ⟨hx, hy, hz⟩, fun time id v => ?_,
    fun L hL => length_drainSteps_le_of_fits hL⟩
  · obtain ⟨⟨hx₁, hx₂⟩, ⟨hy₁, hy₂⟩, ⟨hz₁, hz₂⟩⟩ := hfit s hs
    exact ⟨hfit s hs, toFixed_fromFixed hx₁ hx₂, toFixed_fromFixed hy₁ hy₂,
      toFixed_fromFixed hz₁ hz₂⟩
  · rw [find?_foldl_apply_stepRecords time id _ hfit v, hx, hy, hz]

end SessionSquash
