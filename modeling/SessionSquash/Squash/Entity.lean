import SessionSquash.Record.Basic
import SessionSquash.Data.KeyMap

namespace SessionSquash

/-- A distance in blocks as fixed point: times 32, rounded half away from zero. -/
def toFixed (blocks : Binary64) : Int64 :=
  Int64.ofInt (blocks.mul (Binary64.ofNat 32)).toInt64Round

/-- A fixed-point distance back in blocks. -/
def fromFixed (units : Int) : Binary64 := (Binary64.ofInt units).div (Binary64.ofNat 32)

/-- A movement record carries at most this much per axis, in fixed point. -/
def clampStep (d : Int) : Int := max (-128) (min 127 d)

theorem natAbs_sub_clampStep_le (d : Int) : (d - clampStep d).natAbs ≤ d.natAbs := by
  unfold clampStep; omega

theorem natAbs_sub_clampStep_lt {d : Int} (h : d ≠ 0) : (d - clampStep d).natAbs < d.natAbs := by
  unfold clampStep; omega

/-- The relative moves that together cover a delta: each clamps every axis at once, until
nothing is left. -/
def drainSteps (d : Int × Int × Int) : List (Int × Int × Int) :=
  if _h : d.1 = 0 ∧ d.2.1 = 0 ∧ d.2.2 = 0 then []
  else
    let step := (clampStep d.1, clampStep d.2.1, clampStep d.2.2)
    step :: drainSteps (d.1 - step.1, d.2.1 - step.2.1, d.2.2 - step.2.2)
termination_by d.1.natAbs + d.2.1.natAbs + d.2.2.natAbs
decreasing_by
  have a := natAbs_sub_clampStep_le d.1
  have b := natAbs_sub_clampStep_le d.2.1
  have c := natAbs_sub_clampStep_le d.2.2
  by_cases h1 : d.1 = 0
  · by_cases h2 : d.2.1 = 0
    · have h3 : d.2.2 ≠ 0 := fun h3 => _h ⟨h1, h2, h3⟩
      have := natAbs_sub_clampStep_lt h3
      omega
    · have := natAbs_sub_clampStep_lt h2
      omega
  · have := natAbs_sub_clampStep_lt h1
    omega

/-- Where a teleport put an entity. -/
structure Placement where
  location : Location
  onGround : Bool
deriving Inhabited

/-- A record waiting on an entity: its own, or one shared with other entities, by slot. -/
inductive Queued where
  | own (r : TimedRecord)
  | shared (slot : Nat)
deriving Inhabited

/-- A record naming several entities, and the entities it names. -/
structure SharedRecord where
  record : TimedRecord
  ids : List Int32
deriving Inhabited

structure EntityState where
  lastTimestamp : Int64 := 0
  placement : Option Placement := none
  /-- Accumulated relative movement, in fixed point. -/
  delta : Int64 × Int64 × Int64 := (0, 0, 0)
  /-- Yaw and pitch of the last rotating movement since the last teleport or spawn. -/
  orientation : Option (Binary32 × Binary32) := none
  queue : List Queued := []
deriving Inhabited

namespace EntityState

def resetMotion (e : EntityState) : EntityState :=
  { e with placement := none, delta := (0, 0, 0), orientation := none }

/-- Whether a shared slot is already the last thing queued. -/
def endsWith (e : EntityState) (slot : Nat) : Bool :=
  match e.queue.getLast? with
  | some (.shared s) => s == slot
  | _ => false

def movementRecord (time : Int64) (m : Movement) : TimedRecord := ⟨time, .typed (.movement m)⟩

/-- The teleport, relative moves and rotation that bring the entity where it ended. -/
def motionRecords (e : EntityState) (id : Int32) : List TimedRecord :=
  let time := e.lastTimestamp
  let teleport := e.placement.toList.map fun p =>
    (⟨time, .typed (.teleport ⟨id, p.location, p.onGround⟩)⟩ : TimedRecord)
  let (dx, dy, dz) := e.delta
  let moves := (drainSteps (dx.toInt, dy.toInt, dz.toInt)).map fun (sx, sy, sz) =>
    movementRecord time ⟨id, .position, fromFixed sx, fromFixed sy, fromFixed sz,
      Binary32.zero, Binary32.zero, false⟩
  let rotation := e.orientation.toList.map fun (yaw, pitch) =>
    movementRecord time ⟨id, .rotation, Binary64.zero, Binary64.zero, Binary64.zero, yaw, pitch,
      false⟩
  teleport ++ moves ++ rotation

end EntityState

/-- Every entity referenced since the last respawn, by id. -/
structure EntityTracker where
  entities : KeyMap Int32 EntityState := {}
  shared : List (Option SharedRecord) := []
deriving Inhabited

namespace EntityTracker

def size (t : EntityTracker) : Nat := t.entities.size

def get? (t : EntityTracker) (id : Int32) : Option EntityState := t.entities.find? id

def modify (t : EntityTracker) (id : Int32) (f : EntityState → EntityState) : EntityTracker :=
  { t with entities := t.entities.alter id {} f }

/-- A relative movement and/or look update. -/
def onMovement (t : EntityTracker) (time : Int64) (m : Movement) : EntityTracker :=
  t.modify m.entityId fun e =>
    let e :=
      if m.kind.carriesPosition then
        let (x, y, z) := e.delta
        { e with delta := (x + toFixed m.dx, y + toFixed m.dy, z + toFixed m.dz) }
      else e
    let e := if m.kind.carriesRotation then { e with orientation := some (m.yaw, m.pitch) } else e
    { e with lastTimestamp := time }

/-- An absolute position, which discards the motion gathered so far. -/
def onTeleport (t : EntityTracker) (time : Int64) (tp : Teleport) : EntityTracker :=
  t.modify tp.entityId fun e =>
    { e.resetMotion with placement := some ⟨tp.location, tp.onGround⟩, lastTimestamp := time }

/-- A spawn carries a position of its own, so earlier motion no longer applies. -/
def onSpawn (t : EntityTracker) (id : Int32) (r : TimedRecord) : EntityTracker :=
  t.modify id fun e =>
    { e.resetMotion with lastTimestamp := r.time, queue := e.queue ++ [.own r] }

/-- A record about one entity, replayed as it is. -/
def onGeneric (t : EntityTracker) (id : Int32) (r : TimedRecord) : EntityTracker :=
  t.modify id fun e => { e with lastTimestamp := r.time, queue := e.queue ++ [.own r] }

/-- Forgets every entity a destroy record names. -/
def onDestroy (t : EntityTracker) (ids : List Int32) : EntityTracker :=
  { t with entities := ids.foldl KeyMap.erase t.entities }

/-- A record naming several entities, queued once on each. -/
def onShared (t : EntityTracker) (ids : List Int32) (r : TimedRecord) : EntityTracker :=
  let slot := t.shared.length
  let t := { t with shared := t.shared ++ [some ⟨r, ids⟩] }
  ids.foldl (fun t id =>
    t.modify id fun e => if e.endsWith slot then e else { e with queue := e.queue ++ [.shared slot] }) t

def clear (_ : EntityTracker) : EntityTracker := {}

/-- The records that replay every tracked entity, by ascending id. -/
def synthesize (t : EntityTracker) : List TimedRecord :=
  let replayQueue (slots : List (Option SharedRecord)) (queue : List Queued) :
      List (Option SharedRecord) × List TimedRecord :=
    queue.foldl (fun (slots, out) q =>
      match q with
      | .own r => (slots, out ++ [r])
      | .shared i =>
        match slots[i]? with
        | some (some s) =>
          (slots.set i none, if s.ids.all t.entities.contains then out ++ [s.record] else out)
        | _ => (slots, out)) (slots, [])
  let step (acc : List (Option SharedRecord) × List TimedRecord) (entry : Int32 × EntityState) :=
    let (slots, queued) := replayQueue acc.1 entry.2.queue
    (slots, acc.2 ++ queued ++ entry.2.motionRecords entry.1)
  (t.entities.entries.foldl step (t.shared, [])).2

end EntityTracker

end SessionSquash
