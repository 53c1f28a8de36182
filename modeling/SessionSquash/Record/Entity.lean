import SessionSquash.Record.Shared

namespace SessionSquash

structure SpawnPlayer where
  entityId : Int32
  uuid : String
  location : Location
  currentItem : Int32
  metadata : List UInt8
deriving Inhabited

namespace SpawnPlayer

def decoder : Decoder SpawnPlayer :=
  Decoder.record "SpawnPlayerData" 5 do
    let entityId ← Fields.required "entity_id" Decoder.int32
    let uuid ← Fields.required "uuid" Decoder.string
    let location ← Fields.required "location" Location.decoder
    let currentItem ← Fields.withDefault "current_item" Decoder.int32 0
    let metadata ← Fields.withDefault "metadata" Decoder.bytes []
    return { entityId, uuid, location, currentItem, metadata }

def toJson (r : SpawnPlayer) : Json :=
  .object [("entity_id", Json.ofInt r.entityId.toInt),
    ("uuid", .string r.uuid),
    ("location", r.location.toJson),
    ("current_item", Json.ofInt r.currentItem.toInt),
    ("metadata", Json.ofBytes r.metadata)]

end SpawnPlayer

structure SpawnObject where
  entityId : Int32
  objectType : Int32
  location : Location
  data : Int32
  velocity : Binary64 × Binary64 × Binary64
deriving Inhabited

namespace SpawnObject

def decoder : Decoder SpawnObject :=
  Decoder.record "SpawnObjectData" 5 do
    let entityId ← Fields.required "entity_id" Decoder.int32
    let objectType ← Fields.required "object_type" Decoder.int32
    let location ← Fields.required "location" Location.decoder
    let data ← Fields.withDefault "data" Decoder.int32 0
    let velocity ← Fields.withDefault "velocity" (Decoder.triple Decoder.double) (Binary64.zero, Binary64.zero, Binary64.zero)
    return { entityId, objectType, location, data, velocity }

def toJson (r : SpawnObject) : Json :=
  .object [("entity_id", Json.ofInt r.entityId.toInt),
    ("object_type", Json.ofInt r.objectType.toInt),
    ("location", r.location.toJson),
    ("data", Json.ofInt r.data.toInt),
    ("velocity", Json.ofTriple Json.ofDouble r.velocity)]

end SpawnObject

structure SpawnMob where
  entityId : Int32
  mobType : Int32
  location : Location
  headYaw : Binary32
  velocity : Binary64 × Binary64 × Binary64
  metadata : List UInt8
deriving Inhabited

namespace SpawnMob

def decoder : Decoder SpawnMob :=
  Decoder.record "SpawnMobData" 6 do
    let entityId ← Fields.required "entity_id" Decoder.int32
    let mobType ← Fields.required "mob_type" Decoder.int32
    let location ← Fields.required "location" Location.decoder
    let headYaw ← Fields.withDefault "head_yaw" Decoder.single Binary32.zero
    let velocity ← Fields.withDefault "velocity" (Decoder.triple Decoder.double) (Binary64.zero, Binary64.zero, Binary64.zero)
    let metadata ← Fields.withDefault "metadata" Decoder.bytes []
    return { entityId, mobType, location, headYaw, velocity, metadata }

def toJson (r : SpawnMob) : Json :=
  .object [("entity_id", Json.ofInt r.entityId.toInt),
    ("mob_type", Json.ofInt r.mobType.toInt),
    ("location", r.location.toJson),
    ("head_yaw", Json.ofSingle r.headYaw),
    ("velocity", Json.ofTriple Json.ofDouble r.velocity),
    ("metadata", Json.ofBytes r.metadata)]

end SpawnMob

structure SpawnPainting where
  entityId : Int32
  title : String
  position : BlockPos
  direction : UInt8
deriving Inhabited

namespace SpawnPainting

def decoder : Decoder SpawnPainting :=
  Decoder.record "SpawnPaintingData" 4 do
    let entityId ← Fields.required "entity_id" Decoder.int32
    let title ← Fields.required "title" Decoder.string
    let position ← Fields.required "position" BlockPos.decoder
    let direction ← Fields.required "direction" Decoder.uint8
    return { entityId, title, position, direction }

def toJson (r : SpawnPainting) : Json :=
  .object [("entity_id", Json.ofInt r.entityId.toInt),
    ("title", .string r.title),
    ("position", r.position.toJson),
    ("direction", Json.ofNat r.direction.toNat)]

end SpawnPainting

structure SpawnExpOrb where
  entityId : Int32
  x : Binary64
  y : Binary64
  z : Binary64
  exp : Int32
deriving Inhabited

namespace SpawnExpOrb

def decoder : Decoder SpawnExpOrb :=
  Decoder.record "SpawnExpOrbData" 5 do
    let entityId ← Fields.required "entity_id" Decoder.int32
    let x ← Fields.required "x" Decoder.double
    let y ← Fields.required "y" Decoder.double
    let z ← Fields.required "z" Decoder.double
    let exp ← Fields.required "exp" Decoder.int32
    return { entityId, x, y, z, exp }

def toJson (r : SpawnExpOrb) : Json :=
  .object [("entity_id", Json.ofInt r.entityId.toInt),
    ("x", Json.ofDouble r.x),
    ("y", Json.ofDouble r.y),
    ("z", Json.ofDouble r.z),
    ("exp", Json.ofInt r.exp.toInt)]

end SpawnExpOrb

/-- A lightning bolt or another entity seen from everywhere. -/
structure SpawnGlobal where
  entityId : Int32
  globalType : UInt8
  x : Binary64
  y : Binary64
  z : Binary64
deriving Inhabited

namespace SpawnGlobal

def decoder : Decoder SpawnGlobal :=
  Decoder.record "SpawnGlobalEntityData" 5 do
    let entityId ← Fields.required "entity_id" Decoder.int32
    let globalType ← Fields.required "global_type" Decoder.uint8
    let x ← Fields.required "x" Decoder.double
    let y ← Fields.required "y" Decoder.double
    let z ← Fields.required "z" Decoder.double
    return { entityId, globalType, x, y, z }

def toJson (r : SpawnGlobal) : Json :=
  .object [("entity_id", Json.ofInt r.entityId.toInt),
    ("global_type", Json.ofNat r.globalType.toNat),
    ("x", Json.ofDouble r.x),
    ("y", Json.ofDouble r.y),
    ("z", Json.ofDouble r.z)]

end SpawnGlobal

structure Animation where
  entityId : Int32
  animation : UInt8
deriving Inhabited

namespace Animation

def decoder : Decoder Animation :=
  Decoder.record "AnimationData" 2 do
    let entityId ← Fields.required "entity_id" Decoder.int32
    let animation ← Fields.required "animation" Decoder.uint8
    return { entityId, animation }

def toJson (r : Animation) : Json :=
  .object [("entity_id", Json.ofInt r.entityId.toInt),
    ("animation", Json.ofNat r.animation.toNat)]

end Animation

structure CollectItem where
  collectedEntityId : Int32
  collectorEntityId : Int32
deriving Inhabited

namespace CollectItem

def decoder : Decoder CollectItem :=
  Decoder.record "CollectItemData" 2 do
    let collectedEntityId ← Fields.required "collected_entity_id" Decoder.int32
    let collectorEntityId ← Fields.required "collector_entity_id" Decoder.int32
    return { collectedEntityId, collectorEntityId }

def toJson (r : CollectItem) : Json :=
  .object [("collected_entity_id", Json.ofInt r.collectedEntityId.toInt),
    ("collector_entity_id", Json.ofInt r.collectorEntityId.toInt)]

end CollectItem

structure Destroy where
  entityIds : List Int32
deriving Inhabited

namespace Destroy

def decoder : Decoder Destroy :=
  Decoder.record "DestroyEntitiesData" 1 do
    let entityIds ← Fields.required "entity_ids" (Decoder.list Decoder.int32)
    return { entityIds }

def toJson (r : Destroy) : Json :=
  .object [("entity_ids", .array (r.entityIds.map fun i => Json.ofInt i.toInt))]

end Destroy

structure Attach where
  entityId : Int32
  attachedToId : Int32
  leash : Bool
deriving Inhabited

namespace Attach

def decoder : Decoder Attach :=
  Decoder.record "EntityAttachData" 3 do
    let entityId ← Fields.required "entity_id" Decoder.int32
    let attachedToId ← Fields.required "attached_to_id" Decoder.int32
    let leash ← Fields.withDefault "leash" Decoder.bool false
    return { entityId, attachedToId, leash }

def toJson (r : Attach) : Json :=
  .object [("entity_id", Json.ofInt r.entityId.toInt),
    ("attached_to_id", Json.ofInt r.attachedToId.toInt),
    ("leash", .bool r.leash)]

end Attach

structure Effect where
  entityId : Int32
  effect : UInt8
  amplifier : UInt8
  duration : Int32
  hideParticles : Bool
deriving Inhabited

namespace Effect

def decoder : Decoder Effect :=
  Decoder.record "EntityEffectData" 5 do
    let entityId ← Fields.required "entity_id" Decoder.int32
    let effect ← Fields.required "effect" Decoder.uint8
    let amplifier ← Fields.required "amplifier" Decoder.uint8
    let duration ← Fields.required "duration" Decoder.int32
    let hideParticles ← Fields.withDefault "hide_particles" Decoder.bool false
    return { entityId, effect, amplifier, duration, hideParticles }

def toJson (r : Effect) : Json :=
  .object [("entity_id", Json.ofInt r.entityId.toInt),
    ("effect", Json.ofNat r.effect.toNat),
    ("amplifier", Json.ofNat r.amplifier.toNat),
    ("duration", Json.ofInt r.duration.toInt),
    ("hide_particles", .bool r.hideParticles)]

end Effect

structure RemoveEffect where
  entityId : Int32
  effect : UInt8
deriving Inhabited

namespace RemoveEffect

def decoder : Decoder RemoveEffect :=
  Decoder.record "EntityRemoveEffectData" 2 do
    let entityId ← Fields.required "entity_id" Decoder.int32
    let effect ← Fields.required "effect" Decoder.uint8
    return { entityId, effect }

def toJson (r : RemoveEffect) : Json :=
  .object [("entity_id", Json.ofInt r.entityId.toInt),
    ("effect", Json.ofNat r.effect.toNat)]

end RemoveEffect

structure Equipment where
  entityId : Int32
  slot : UInt8
  item : Option ItemStack
deriving Inhabited

namespace Equipment

def decoder : Decoder Equipment :=
  Decoder.record "EntityEquipmentData" 3 do
    let entityId ← Fields.required "entity_id" Decoder.int32
    let slot ← Fields.required "slot" Decoder.uint8
    let item ← Fields.optional "item" ItemStack.decoder
    return { entityId, slot, item }

def toJson (r : Equipment) : Json :=
  .object [("entity_id", Json.ofInt r.entityId.toInt),
    ("slot", Json.ofNat r.slot.toNat),
    ("item", Json.ofOption ItemStack.toJson r.item)]

end Equipment

structure HeadLook where
  entityId : Int32
  headYaw : Binary32
deriving Inhabited

namespace HeadLook

def decoder : Decoder HeadLook :=
  Decoder.record "EntityHeadLookData" 2 do
    let entityId ← Fields.required "entity_id" Decoder.int32
    let headYaw ← Fields.required "head_yaw" Decoder.single
    return { entityId, headYaw }

def toJson (r : HeadLook) : Json :=
  .object [("entity_id", Json.ofInt r.entityId.toInt),
    ("head_yaw", Json.ofSingle r.headYaw)]

end HeadLook

structure Metadata where
  entityId : Int32
  metadata : List UInt8
deriving Inhabited

namespace Metadata

def decoder : Decoder Metadata :=
  Decoder.record "EntityMetadataData" 2 do
    let entityId ← Fields.required "entity_id" Decoder.int32
    let metadata ← Fields.required "metadata" Decoder.bytes
    return { entityId, metadata }

def toJson (r : Metadata) : Json :=
  .object [("entity_id", Json.ofInt r.entityId.toInt),
    ("metadata", Json.ofBytes r.metadata)]

end Metadata

/-- A relative movement and/or look update, in blocks and degrees. -/
structure Movement where
  entityId : Int32
  kind : MovementKind
  dx : Binary64
  dy : Binary64
  dz : Binary64
  yaw : Binary32
  pitch : Binary32
  onGround : Bool
deriving Inhabited

namespace Movement

def decoder : Decoder Movement :=
  Decoder.record "EntityMovementData" 8 do
    let entityId ← Fields.required "entity_id" Decoder.int32
    let kind ← Fields.required "kind" MovementKind.decoder
    let dx ← Fields.withDefault "dx" Decoder.double Binary64.zero
    let dy ← Fields.withDefault "dy" Decoder.double Binary64.zero
    let dz ← Fields.withDefault "dz" Decoder.double Binary64.zero
    let yaw ← Fields.withDefault "yaw" Decoder.single Binary32.zero
    let pitch ← Fields.withDefault "pitch" Decoder.single Binary32.zero
    let onGround ← Fields.withDefault "on_ground" Decoder.bool false
    return { entityId, kind, dx, dy, dz, yaw, pitch, onGround }

def toJson (r : Movement) : Json :=
  .object [("entity_id", Json.ofInt r.entityId.toInt),
    ("kind", r.kind.toJson),
    ("dx", Json.ofDouble r.dx),
    ("dy", Json.ofDouble r.dy),
    ("dz", Json.ofDouble r.dz),
    ("yaw", Json.ofSingle r.yaw),
    ("pitch", Json.ofSingle r.pitch),
    ("on_ground", .bool r.onGround)]

end Movement

structure Teleport where
  entityId : Int32
  location : Location
  onGround : Bool
deriving Inhabited

namespace Teleport

def decoder : Decoder Teleport :=
  Decoder.record "EntityTeleportData" 3 do
    let entityId ← Fields.required "entity_id" Decoder.int32
    let location ← Fields.required "location" Location.decoder
    let onGround ← Fields.withDefault "on_ground" Decoder.bool false
    return { entityId, location, onGround }

def toJson (r : Teleport) : Json :=
  .object [("entity_id", Json.ofInt r.entityId.toInt),
    ("location", r.location.toJson),
    ("on_ground", .bool r.onGround)]

end Teleport

structure Velocity where
  entityId : Int32
  vx : Binary64
  vy : Binary64
  vz : Binary64
deriving Inhabited

namespace Velocity

def decoder : Decoder Velocity :=
  Decoder.record "EntityVelocityData" 4 do
    let entityId ← Fields.required "entity_id" Decoder.int32
    let vx ← Fields.required "vx" Decoder.double
    let vy ← Fields.required "vy" Decoder.double
    let vz ← Fields.required "vz" Decoder.double
    return { entityId, vx, vy, vz }

def toJson (r : Velocity) : Json :=
  .object [("entity_id", Json.ofInt r.entityId.toInt),
    ("vx", Json.ofDouble r.vx),
    ("vy", Json.ofDouble r.vy),
    ("vz", Json.ofDouble r.vz)]

end Velocity

structure AttributeModifier where
  uuid : String
  amount : Binary64
  operation : UInt8
deriving Inhabited

namespace AttributeModifier

def decoder : Decoder AttributeModifier :=
  Decoder.record "AttributeModifier" 3 do
    let uuid ← Fields.required "uuid" Decoder.string
    let amount ← Fields.required "amount" Decoder.double
    let operation ← Fields.required "operation" Decoder.uint8
    return { uuid, amount, operation }

def toJson (r : AttributeModifier) : Json :=
  .object [("uuid", .string r.uuid),
    ("amount", Json.ofDouble r.amount),
    ("operation", Json.ofNat r.operation.toNat)]

end AttributeModifier

structure Attribute where
  key : String
  value : Binary64
  modifiers : List AttributeModifier
deriving Inhabited

namespace Attribute

def decoder : Decoder Attribute :=
  Decoder.record "EntityAttribute" 3 do
    let key ← Fields.required "key" Decoder.string
    let value ← Fields.required "value" Decoder.double
    let modifiers ← Fields.withDefault "modifiers" (Decoder.list AttributeModifier.decoder) []
    return { key, value, modifiers }

def toJson (r : Attribute) : Json :=
  .object ([("key", .string r.key)] ++
    [("value", Json.ofDouble r.value)] ++
    (if r.modifiers.isEmpty then [] else [("modifiers", .array (r.modifiers.map AttributeModifier.toJson))]))

end Attribute

structure Properties where
  entityId : Int32
  attributes : List Attribute
deriving Inhabited

namespace Properties

def decoder : Decoder Properties :=
  Decoder.record "EntityPropertiesData" 2 do
    let entityId ← Fields.required "entity_id" Decoder.int32
    let attributes ← Fields.required "attributes" (Decoder.list Attribute.decoder)
    return { entityId, attributes }

def toJson (r : Properties) : Json :=
  .object [("entity_id", Json.ofInt r.entityId.toInt),
    ("attributes", .array (r.attributes.map Attribute.toJson))]

end Properties

structure Status where
  entityId : Int32
  status : UInt8
deriving Inhabited

namespace Status

def decoder : Decoder Status :=
  Decoder.record "EntityStatusData" 2 do
    let entityId ← Fields.required "entity_id" Decoder.int32
    let status ← Fields.required "status" Decoder.uint8
    return { entityId, status }

def toJson (r : Status) : Json :=
  .object [("entity_id", Json.ofInt r.entityId.toInt),
    ("status", Json.ofNat r.status.toNat)]

end Status

structure UseBed where
  entityId : Int32
  position : BlockPos
deriving Inhabited

namespace UseBed

def decoder : Decoder UseBed :=
  Decoder.record "UseBedData" 2 do
    let entityId ← Fields.required "entity_id" Decoder.int32
    let position ← Fields.required "position" BlockPos.decoder
    return { entityId, position }

def toJson (r : UseBed) : Json :=
  .object [("entity_id", Json.ofInt r.entityId.toInt),
    ("position", r.position.toJson)]

end UseBed

structure BlockBreakAnim where
  breakerEntityId : Int32
  position : BlockPos
  stage : Int8
deriving Inhabited

namespace BlockBreakAnim

def decoder : Decoder BlockBreakAnim :=
  Decoder.record "BlockBreakAnimData" 3 do
    let breakerEntityId ← Fields.required "breaker_entity_id" Decoder.int32
    let position ← Fields.required "position" BlockPos.decoder
    let stage ← Fields.required "stage" Decoder.int8
    return { breakerEntityId, position, stage }

def toJson (r : BlockBreakAnim) : Json :=
  .object [("breaker_entity_id", Json.ofInt r.breakerEntityId.toInt),
    ("position", r.position.toJson),
    ("stage", Json.ofInt r.stage.toInt)]

end BlockBreakAnim

end SessionSquash
