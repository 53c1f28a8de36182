import SessionSquash.Squash.Config
import SessionSquash.Squash.Entity
import SessionSquash.Squash.Chunk
import SessionSquash.Squash.Team
import SessionSquash.Squash.Window
import SessionSquash.Squash.Session

namespace SessionSquash

/-- Something worth a diagnostic that happened while consuming. -/
inductive SquashNote where
  /-- A record of a kind the engine interprets arrived undecoded and was passed through. -/
  | undecoded (kind : RecordKind) (time : Int64)
  /-- A block change outside every tracked column was dropped. -/
  | orphanBlock (time : Int64) (change : BlockChange)
  /-- A respawn discarded this many entities and columns. -/
  | respawn (entities chunks : Nat)
deriving Inhabited

structure Squasher where
  config : SquashConfig := {}
  lastTime : Int64 := 0
  unhandled : List TimedRecord := []
  currentWorld : List TimedRecord := []
  entities : EntityTracker := {}
  chunks : ChunkTracker := {}
  windows : WindowTracker := {}
  teams : TeamTracker := {}
  session : SessionState := {}
  report : SquashReport := {}
  /-- Diagnostics, oldest first. -/
  notes : List SquashNote := []
deriving Inhabited

namespace Squasher

def new (config : SquashConfig) : Squasher := { config }

def note (s : Squasher) (n : SquashNote) : Squasher := { s with notes := s.notes ++ [n] }

def passThrough (s : Squasher) (time : Int64) (record : Record) : Squasher :=
  { s with
    unhandled := s.unhandled ++ [⟨time, record⟩]
    report.passedThrough := s.report.passedThrough + (if record.isRaw then 1 else 0) }

def isSpawn : Payload → Bool
  | .spawnPlayer _ | .spawnObject _ | .spawnMob _ | .spawnPainting _ | .spawnExpOrb _
  | .spawnGlobal _ => true
  | _ => false

def onEntity (s : Squasher) (time : Int64) (record : Record) : Squasher :=
  match record.entityRef with
  | .none => s.passThrough time record
  | .multiple ids =>
    match record with
    | .typed (.destroy _) =>
      { s with entities := s.entities.onDestroy ids, currentWorld := s.currentWorld ++ [⟨time, record⟩] }
    | _ => { s with entities := s.entities.onShared ids ⟨time, record⟩ }
  | .single id =>
    match record with
    | .typed (.movement m) => { s with entities := s.entities.onMovement time m }
    | .typed (.teleport t) => { s with entities := s.entities.onTeleport time t }
    | .typed p =>
      if isSpawn p then { s with entities := s.entities.onSpawn id ⟨time, record⟩ }
      else { s with entities := s.entities.onGeneric id ⟨time, record⟩ }
    | .raw .. => { s with entities := s.entities.onGeneric id ⟨time, record⟩ }

def onBlock (s : Squasher) (time : Int64) (change : BlockChange) : Squasher :=
  let (chunks, result) := s.chunks.onBlock time change
  let s := { s with chunks }
  if result == .orphaned then
    { s with report.orphanBlockChanges := s.report.orphanBlockChanges + 1 }.note (.orphanBlock time change)
  else s

def onChunk (s : Squasher) (time : Int64) (record : Record) : Squasher :=
  match record with
  | .typed (.chunkData c) => { s with chunks := s.chunks.onColumn time c }
  | .typed (.multiChunkData d) => { s with chunks := d.columns.foldl (·.onColumn time ·) s.chunks }
  | .typed (.blockChange c) => s.onBlock time c
  | .typed (.multiBlockChange d) => d.records.foldl (·.onBlock time ·) s
  | other => s.passThrough time other

def onWorld (s : Squasher) (time : Int64) (record : Record) : Squasher :=
  if record.kind == .particle && s.config.dropParticles then
    { s with report.particlesDropped := s.report.particlesDropped + 1 }
  else { s with currentWorld := s.currentWorld ++ [⟨time, record⟩] }

def onWindow (s : Squasher) (time : Int64) (record : Record) : Squasher :=
  let timed : TimedRecord := ⟨time, record⟩
  let otherwise : Squasher :=
    if record.kind == .confirmTransaction && s.config.dropTransactionConfirms then
      { s with report.confirmsDropped := s.report.confirmsDropped + 1 }
    else { s with windows := s.windows.onSecondary timed }
  match record with
  | .typed (.closeWindow _) => { s with windows := s.windows.onClose timed }
  | .typed (.windowItems w) =>
    if w.isMainInventory then { s with windows := s.windows.onMainInventory timed } else otherwise
  | .typed (.setSlot slot) =>
    if slot.isMainInventory then { s with windows := s.windows.onMainSlot slot.slot timed }
    else otherwise
  | _ => otherwise

/-- A respawn discards the world the client leaves. -/
def resetWorld (s : Squasher) : Squasher :=
  let s := s.note (.respawn s.entities.size s.chunks.size)
  { s with
    report.respawns := s.report.respawns + 1
    entities := s.entities.clear
    chunks := s.chunks.clear
    currentWorld := []
    windows := s.windows.clearCurrent }

def onSession (s : Squasher) (time : Int64) (record : Record) : Squasher :=
  match record with
  | .typed (.join j) => { s with session := s.session.onJoin time j }
  | .typed (.respawn r) => { s with session := s.session.onRespawn time r }.resetWorld
  | .typed (.notify (.changeGameMode m)) => { s with session := s.session.onGameMode m }
  | .typed (.experience e) => { s with session := s.session.onExperience e }
  | .typed (.abilities a) => { s with session := s.session.onAbilities a }
  | .typed (.mapData m) => { s with session := s.session.onMap m }
  | other => s.passThrough time other

/-- Folds one record into the state. Every record is absorbed: nothing reaches the output
before the end. -/
def consume (s : Squasher) (r : TimedRecord) : Squasher :=
  let s := { s with lastTime := r.time, report.recordsConsumed := s.report.recordsConsumed + 1 }
  let time := r.time
  let record := r.record
  match record with
  | .raw kind _ =>
    if decodedKinds.contains kind then
      { s with
        unhandled := s.unhandled ++ [r]
        report.passedThrough := s.report.passedThrough + 1 }.note (.undecoded kind time)
    else
      match kind.domain with
      | .world => s.onWorld time record
      | .window => s.onWindow time record
      | _ => s.passThrough time record
  | .typed p =>
    match p.kind.domain with
    | .entity => s.onEntity time record
    | .chunk => s.onChunk time record
    | .world => s.onWorld time record
    | .window => s.onWindow time record
    | .team =>
      match p with
      | .team d => { s with teams := s.teams.onTeam d }
      | _ => s.passThrough time record
    | .session => s.onSession time record
    | .other => s.passThrough time record

/-- The squashed records and the report, team and map records stamped with `endTime`. -/
def finish (s : Squasher) (endTime : Int64) : List TimedRecord × SquashReport :=
  let body := s.unhandled ++ s.currentWorld ++ s.windows.synthesize ++
    s.session.synthesizeSession s.lastTime ++ s.entities.synthesize ++ s.chunks.synthesize
  let sorted := body.mergeSort fun a b => a.time ≤ b.time
  let out := sorted ++ s.teams.synthesize endTime ++ s.session.synthesizeMaps endTime
  let report := { s.report with
    entitiesTracked := s.entities.size
    chunksTracked := s.chunks.size
    teamsTracked := s.teams.size
    recordsEmitted := out.length }
  (out, report)

def flush (s : Squasher) (endTime : Int64) : List TimedRecord := (s.finish endTime).1

def consumeAll (s : Squasher) (records : List TimedRecord) : Squasher := records.foldl consume s

end Squasher

/-- One whole pass over a recording. -/
def squash (records : List TimedRecord) (endTime : Int64) (config : SquashConfig) :
    List TimedRecord × SquashReport :=
  ((Squasher.new config).consumeAll records).finish endTime

end SessionSquash
