import SessionSquash.Record.Shared

namespace SessionSquash

structure PositionRotation where
  location : Location
  relative : UInt8
deriving Inhabited

namespace PositionRotation

def decoder : Decoder PositionRotation :=
  Decoder.record "PlayerPositionRotationData" 2 do
    let location ← Fields.required "location" Location.decoder
    let relative ← Fields.withDefault "relative" Decoder.uint8 0
    return { location, relative }

def toJson (r : PositionRotation) : Json :=
  .object [("location", r.location.toJson),
    ("relative", Json.ofNat r.relative.toNat)]

end PositionRotation

/-- A block action such as a note block tone or a chest lid moving. -/
structure BlockValue where
  position : BlockPos
  actionType : UInt8
  actionParam : UInt8
  blockId : Int32
deriving Inhabited

namespace BlockValue

def decoder : Decoder BlockValue :=
  Decoder.record "BlockValueData" 4 do
    let position ← Fields.required "position" BlockPos.decoder
    let actionType ← Fields.required "action_type" Decoder.uint8
    let actionParam ← Fields.required "action_param" Decoder.uint8
    let blockId ← Fields.required "block_id" Decoder.int32
    return { position, actionType, actionParam, blockId }

def toJson (r : BlockValue) : Json :=
  .object [("position", r.position.toJson),
    ("action_type", Json.ofNat r.actionType.toNat),
    ("action_param", Json.ofNat r.actionParam.toNat),
    ("block_id", Json.ofInt r.blockId.toInt)]

end BlockValue

structure Explosion where
  x : Binary32
  y : Binary32
  z : Binary32
  radius : Binary32
  exploded : List (Int8 × Int8 × Int8)
  push : Binary32 × Binary32 × Binary32
deriving Inhabited

namespace Explosion

def decoder : Decoder Explosion :=
  Decoder.record "ExplosionData" 6 do
    let x ← Fields.required "x" Decoder.single
    let y ← Fields.required "y" Decoder.single
    let z ← Fields.required "z" Decoder.single
    let radius ← Fields.required "radius" Decoder.single
    let exploded ← Fields.withDefault "exploded" (Decoder.list (Decoder.triple Decoder.int8)) []
    let push ← Fields.withDefault "push" (Decoder.triple Decoder.single) (Binary32.zero, Binary32.zero, Binary32.zero)
    return { x, y, z, radius, exploded, push }

def toJson (r : Explosion) : Json :=
  .object [("x", Json.ofSingle r.x),
    ("y", Json.ofSingle r.y),
    ("z", Json.ofSingle r.z),
    ("radius", Json.ofSingle r.radius),
    ("exploded", .array (r.exploded.map (Json.ofTriple fun i => Json.ofInt i.toInt))),
    ("push", Json.ofTriple Json.ofSingle r.push)]

end Explosion

structure TileEntityEditor where
  position : BlockPos
deriving Inhabited

namespace TileEntityEditor

def decoder : Decoder TileEntityEditor :=
  Decoder.record "OpenTileEntityEditorData" 1 do
    let position ← Fields.required "position" BlockPos.decoder
    return { position }

def toJson (r : TileEntityEditor) : Json :=
  .object [("position", r.position.toJson)]

end TileEntityEditor

structure PlayEffect where
  effect : Int32
  position : BlockPos
  data : Int32
  broadcast : Bool
deriving Inhabited

namespace PlayEffect

def decoder : Decoder PlayEffect :=
  Decoder.record "PlayEffectData" 4 do
    let effect ← Fields.required "effect" Decoder.int32
    let position ← Fields.required "position" BlockPos.decoder
    let data ← Fields.withDefault "data" Decoder.int32 0
    let broadcast ← Fields.withDefault "broadcast" Decoder.bool false
    return { effect, position, data, broadcast }

def toJson (r : PlayEffect) : Json :=
  .object [("effect", Json.ofInt r.effect.toInt),
    ("position", r.position.toJson),
    ("data", Json.ofInt r.data.toInt),
    ("broadcast", .bool r.broadcast)]

end PlayEffect

structure PlaySound where
  sound : String
  x : Binary64
  y : Binary64
  z : Binary64
  volume : Binary32
  pitch : Binary32
deriving Inhabited

namespace PlaySound

def decoder : Decoder PlaySound :=
  Decoder.record "PlaySoundData" 6 do
    let sound ← Fields.required "sound" Decoder.string
    let x ← Fields.required "x" Decoder.double
    let y ← Fields.required "y" Decoder.double
    let z ← Fields.required "z" Decoder.double
    let volume ← Fields.required "volume" Decoder.single
    let pitch ← Fields.required "pitch" Decoder.single
    return { sound, x, y, z, volume, pitch }

def toJson (r : PlaySound) : Json :=
  .object [("sound", .string r.sound),
    ("x", Json.ofDouble r.x),
    ("y", Json.ofDouble r.y),
    ("z", Json.ofDouble r.z),
    ("volume", Json.ofSingle r.volume),
    ("pitch", Json.ofSingle r.pitch)]

end PlaySound

structure Particle where
  particle : Int32
  longDistance : Bool
  x : Binary32
  y : Binary32
  z : Binary32
  offset : Binary32 × Binary32 × Binary32
  speed : Binary32
  amount : Int32
deriving Inhabited

namespace Particle

def decoder : Decoder Particle :=
  Decoder.record "SpawnParticleData" 8 do
    let particle ← Fields.required "particle" Decoder.int32
    let longDistance ← Fields.withDefault "long_distance" Decoder.bool false
    let x ← Fields.required "x" Decoder.single
    let y ← Fields.required "y" Decoder.single
    let z ← Fields.required "z" Decoder.single
    let offset ← Fields.withDefault "offset" (Decoder.triple Decoder.single) (Binary32.zero, Binary32.zero, Binary32.zero)
    let speed ← Fields.withDefault "speed" Decoder.single Binary32.zero
    let amount ← Fields.withDefault "amount" Decoder.int32 0
    return { particle, longDistance, x, y, z, offset, speed, amount }

def toJson (r : Particle) : Json :=
  .object [("particle", Json.ofInt r.particle.toInt),
    ("long_distance", .bool r.longDistance),
    ("x", Json.ofSingle r.x),
    ("y", Json.ofSingle r.y),
    ("z", Json.ofSingle r.z),
    ("offset", Json.ofTriple Json.ofSingle r.offset),
    ("speed", Json.ofSingle r.speed),
    ("amount", Json.ofInt r.amount.toInt)]

end Particle

structure SpawnPosition where
  position : BlockPos
deriving Inhabited

namespace SpawnPosition

def decoder : Decoder SpawnPosition :=
  Decoder.record "SpawnPositionData" 1 do
    let position ← Fields.required "position" BlockPos.decoder
    return { position }

def toJson (r : SpawnPosition) : Json :=
  .object [("position", r.position.toJson)]

end SpawnPosition

structure UpdateSign where
  position : BlockPos
  lines : List String
deriving Inhabited

namespace UpdateSign

def decoder : Decoder UpdateSign :=
  Decoder.record "UpdateSignData" 2 do
    let position ← Fields.required "position" BlockPos.decoder
    let lines ← Fields.required "lines" (Decoder.list Decoder.string)
    return { position, lines }

def toJson (r : UpdateSign) : Json :=
  .object [("position", r.position.toJson),
    ("lines", .array (r.lines.map Json.string))]

end UpdateSign

structure TileEntity where
  position : BlockPos
  action : UInt8
  nbt : List UInt8
deriving Inhabited

namespace TileEntity

def decoder : Decoder TileEntity :=
  Decoder.record "UpdateTileEntityData" 3 do
    let position ← Fields.required "position" BlockPos.decoder
    let action ← Fields.required "action" Decoder.uint8
    let nbt ← Fields.withDefault "nbt" Decoder.bytes []
    return { position, action, nbt }

def toJson (r : TileEntity) : Json :=
  .object [("position", r.position.toJson),
    ("action", Json.ofNat r.action.toNat),
    ("nbt", Json.ofBytes r.nbt)]

end TileEntity

structure WorldTime where
  worldAge : Int64
  time : Int64
deriving Inhabited

namespace WorldTime

def decoder : Decoder WorldTime :=
  Decoder.record "UpdateTimeData" 2 do
    let worldAge ← Fields.required "world_age" Decoder.int64
    let time ← Fields.required "time" Decoder.int64
    return { worldAge, time }

def toJson (r : WorldTime) : Json :=
  .object [("world_age", Json.ofInt r.worldAge.toInt),
    ("time", Json.ofInt r.time.toInt)]

end WorldTime

end SessionSquash
