import SessionSquash.Registry
import SessionSquash.Json.Decode

namespace SessionSquash

/-- The kinds the engine interprets: every entity kind, the chunk kinds, teams, the window
records that touch the main inventory or close a window, and the session records. -/
def decodedKinds : List RecordKind :=
  [.spawnPlayer, .spawnObject, .spawnMob, .spawnPainting, .spawnExpOrb, .spawnGlobal,
    .animation, .collectItem, .destroy, .attach, .effect, .removeEffect, .equipment, .headLook,
    .metadata, .movement, .teleport, .velocity, .properties, .status, .useBed, .blockBreakAnim,
    .notify, .experience, .abilities, .join, .respawn, .team, .closeWindow, .windowItems,
    .setSlot, .chunkData, .multiChunkData, .blockChange, .multiBlockChange, .mapData]

/-- The registry the engine reads logs with. -/
def Registry.squash : Registry := Registry.ofKinds decodedKinds

/-- Engine options; both default to dropping. -/
structure SquashConfig where
  dropParticles : Bool := true
  dropTransactionConfirms : Bool := true
deriving Inhabited, DecidableEq

namespace SquashConfig

/-- Every field may be absent and then takes its default. -/
def decoder : Decoder SquashConfig :=
  Decoder.record "SquashConfig" 2 do
    let dropParticles ← Fields.withDefault "drop_particles" Decoder.bool true
    let dropTransactionConfirms ← Fields.withDefault "drop_transaction_confirms" Decoder.bool true
    return { dropParticles, dropTransactionConfirms }

def toJson (c : SquashConfig) : Json :=
  .object [("drop_particles", .bool c.dropParticles),
    ("drop_transaction_confirms", .bool c.dropTransactionConfirms)]

/-- The form a debugging trace shows. -/
def describe (c : SquashConfig) : String :=
  s!"SquashConfig \x7b drop_particles: {c.dropParticles}, " ++
    s!"drop_transaction_confirms: {c.dropTransactionConfirms} \x7d"

end SquashConfig

/-- Counts of one squash pass. -/
structure SquashReport where
  recordsConsumed : Nat := 0
  recordsEmitted : Nat := 0
  particlesDropped : Nat := 0
  confirmsDropped : Nat := 0
  orphanBlockChanges : Nat := 0
  passedThrough : Nat := 0
  respawns : Nat := 0
  entitiesTracked : Nat := 0
  chunksTracked : Nat := 0
  teamsTracked : Nat := 0
deriving Inhabited, DecidableEq

namespace SquashReport

/-- Records dropped for any reason. -/
def dropped (r : SquashReport) : Nat := r.particlesDropped + r.confirmsDropped + r.orphanBlockChanges

def members (r : SquashReport) : List (String × Json) :=
  [("records_consumed", Json.ofNat r.recordsConsumed),
    ("records_emitted", Json.ofNat r.recordsEmitted),
    ("particles_dropped", Json.ofNat r.particlesDropped),
    ("confirms_dropped", Json.ofNat r.confirmsDropped),
    ("orphan_block_changes", Json.ofNat r.orphanBlockChanges),
    ("opaque_passed", Json.ofNat r.passedThrough),
    ("respawns", Json.ofNat r.respawns),
    ("entities_tracked", Json.ofNat r.entitiesTracked),
    ("chunks_tracked", Json.ofNat r.chunksTracked),
    ("teams_tracked", Json.ofNat r.teamsTracked)]

def toJson (r : SquashReport) : Json := .object r.members

end SquashReport

end SessionSquash
