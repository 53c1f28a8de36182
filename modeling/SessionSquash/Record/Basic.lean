import SessionSquash.Record.Kind
import SessionSquash.Record.Entity
import SessionSquash.Record.Chunk
import SessionSquash.Record.World
import SessionSquash.Record.Window
import SessionSquash.Record.Team
import SessionSquash.Record.Session
import SessionSquash.Record.Message

namespace SessionSquash

/-- A decoded payload; its constructor determines its kind. -/
inductive Payload where
  | spawnPlayer (data : SpawnPlayer)
  | spawnObject (data : SpawnObject)
  | spawnMob (data : SpawnMob)
  | spawnPainting (data : SpawnPainting)
  | spawnExpOrb (data : SpawnExpOrb)
  | spawnGlobal (data : SpawnGlobal)
  | animation (data : Animation)
  | collectItem (data : CollectItem)
  | destroy (data : Destroy)
  | attach (data : Attach)
  | effect (data : Effect)
  | removeEffect (data : RemoveEffect)
  | equipment (data : Equipment)
  | headLook (data : HeadLook)
  | metadata (data : Metadata)
  | movement (data : Movement)
  | teleport (data : Teleport)
  | velocity (data : Velocity)
  | properties (data : Properties)
  | status (data : Status)
  | useBed (data : UseBed)
  | blockBreakAnim (data : BlockBreakAnim)
  | chunkData (data : ChunkColumn)
  | multiChunkData (data : MultiChunk)
  | blockChange (data : BlockChange)
  | multiBlockChange (data : MultiBlockChange)
  | positionRotation (data : PositionRotation)
  | blockValue (data : BlockValue)
  | explosion (data : Explosion)
  | tileEntityEditor (data : TileEntityEditor)
  | playEffect (data : PlayEffect)
  | playSound (data : PlaySound)
  | particle (data : Particle)
  | spawnPosition (data : SpawnPosition)
  | updateSign (data : UpdateSign)
  | tileEntity (data : TileEntity)
  | time (data : WorldTime)
  | openWindow (data : OpenWindow)
  | closeWindow (data : CloseWindow)
  | windowProperty (data : WindowProperty)
  | windowItems (data : WindowItems)
  | setSlot (data : SetSlot)
  | confirmTransaction (data : ConfirmTransaction)
  | team (data : TeamRecord)
  | join (data : JoinGame)
  | respawn (data : Respawn)
  | notify (data : Notification)
  | experience (data : Experience)
  | abilities (data : Abilities)
  | mapData (data : MapData)
  | chat (data : Chat)
  | pluginMessage (data : PluginMessage)
deriving Inhabited

namespace Payload

def kind : Payload → RecordKind
  | .spawnPlayer _ => .spawnPlayer
  | .spawnObject _ => .spawnObject
  | .spawnMob _ => .spawnMob
  | .spawnPainting _ => .spawnPainting
  | .spawnExpOrb _ => .spawnExpOrb
  | .spawnGlobal _ => .spawnGlobal
  | .animation _ => .animation
  | .collectItem _ => .collectItem
  | .destroy _ => .destroy
  | .attach _ => .attach
  | .effect _ => .effect
  | .removeEffect _ => .removeEffect
  | .equipment _ => .equipment
  | .headLook _ => .headLook
  | .metadata _ => .metadata
  | .movement _ => .movement
  | .teleport _ => .teleport
  | .velocity _ => .velocity
  | .properties _ => .properties
  | .status _ => .status
  | .useBed _ => .useBed
  | .blockBreakAnim _ => .blockBreakAnim
  | .chunkData _ => .chunkData
  | .multiChunkData _ => .multiChunkData
  | .blockChange _ => .blockChange
  | .multiBlockChange _ => .multiBlockChange
  | .positionRotation _ => .positionRotation
  | .blockValue _ => .blockValue
  | .explosion _ => .explosion
  | .tileEntityEditor _ => .tileEntityEditor
  | .playEffect _ => .playEffect
  | .playSound _ => .playSound
  | .particle _ => .particle
  | .spawnPosition _ => .spawnPosition
  | .updateSign _ => .updateSign
  | .tileEntity _ => .tileEntity
  | .time _ => .time
  | .openWindow _ => .openWindow
  | .closeWindow _ => .closeWindow
  | .windowProperty _ => .windowProperty
  | .windowItems _ => .windowItems
  | .setSlot _ => .setSlot
  | .confirmTransaction _ => .confirmTransaction
  | .team _ => .team
  | .join _ => .join
  | .respawn _ => .respawn
  | .notify _ => .notify
  | .experience _ => .experience
  | .abilities _ => .abilities
  | .mapData _ => .mapData
  | .chat _ => .chat
  | .pluginMessage _ => .pluginMessage

/-- The payload in the form the record log writes, fields in declaration order. -/
def toJson : Payload → Json
  | .spawnPlayer d => d.toJson
  | .spawnObject d => d.toJson
  | .spawnMob d => d.toJson
  | .spawnPainting d => d.toJson
  | .spawnExpOrb d => d.toJson
  | .spawnGlobal d => d.toJson
  | .animation d => d.toJson
  | .collectItem d => d.toJson
  | .destroy d => d.toJson
  | .attach d => d.toJson
  | .effect d => d.toJson
  | .removeEffect d => d.toJson
  | .equipment d => d.toJson
  | .headLook d => d.toJson
  | .metadata d => d.toJson
  | .movement d => d.toJson
  | .teleport d => d.toJson
  | .velocity d => d.toJson
  | .properties d => d.toJson
  | .status d => d.toJson
  | .useBed d => d.toJson
  | .blockBreakAnim d => d.toJson
  | .chunkData d => d.toJson
  | .multiChunkData d => d.toJson
  | .blockChange d => d.toJson
  | .multiBlockChange d => d.toJson
  | .positionRotation d => d.toJson
  | .blockValue d => d.toJson
  | .explosion d => d.toJson
  | .tileEntityEditor d => d.toJson
  | .playEffect d => d.toJson
  | .playSound d => d.toJson
  | .particle d => d.toJson
  | .spawnPosition d => d.toJson
  | .updateSign d => d.toJson
  | .tileEntity d => d.toJson
  | .time d => d.toJson
  | .openWindow d => d.toJson
  | .closeWindow d => d.toJson
  | .windowProperty d => d.toJson
  | .windowItems d => d.toJson
  | .setSlot d => d.toJson
  | .confirmTransaction d => d.toJson
  | .team d => d.toJson
  | .join d => d.toJson
  | .respawn d => d.toJson
  | .notify d => d.toJson
  | .experience d => d.toJson
  | .abilities d => d.toJson
  | .mapData d => d.toJson
  | .chat d => d.toJson
  | .pluginMessage d => d.toJson

/-- The decoder of a kind's payload. -/
def decoder : RecordKind → Decoder Payload
  | .spawnPlayer => fun s j => (SpawnPlayer.decoder s j).map .spawnPlayer
  | .spawnObject => fun s j => (SpawnObject.decoder s j).map .spawnObject
  | .spawnMob => fun s j => (SpawnMob.decoder s j).map .spawnMob
  | .spawnPainting => fun s j => (SpawnPainting.decoder s j).map .spawnPainting
  | .spawnExpOrb => fun s j => (SpawnExpOrb.decoder s j).map .spawnExpOrb
  | .spawnGlobal => fun s j => (SpawnGlobal.decoder s j).map .spawnGlobal
  | .animation => fun s j => (Animation.decoder s j).map .animation
  | .collectItem => fun s j => (CollectItem.decoder s j).map .collectItem
  | .destroy => fun s j => (Destroy.decoder s j).map .destroy
  | .attach => fun s j => (Attach.decoder s j).map .attach
  | .effect => fun s j => (Effect.decoder s j).map .effect
  | .removeEffect => fun s j => (RemoveEffect.decoder s j).map .removeEffect
  | .equipment => fun s j => (Equipment.decoder s j).map .equipment
  | .headLook => fun s j => (HeadLook.decoder s j).map .headLook
  | .metadata => fun s j => (Metadata.decoder s j).map .metadata
  | .movement => fun s j => (Movement.decoder s j).map .movement
  | .teleport => fun s j => (Teleport.decoder s j).map .teleport
  | .velocity => fun s j => (Velocity.decoder s j).map .velocity
  | .properties => fun s j => (Properties.decoder s j).map .properties
  | .status => fun s j => (Status.decoder s j).map .status
  | .useBed => fun s j => (UseBed.decoder s j).map .useBed
  | .blockBreakAnim => fun s j => (BlockBreakAnim.decoder s j).map .blockBreakAnim
  | .chunkData => fun s j => (ChunkColumn.decoder s j).map .chunkData
  | .multiChunkData => fun s j => (MultiChunk.decoder s j).map .multiChunkData
  | .blockChange => fun s j => (BlockChange.decoder s j).map .blockChange
  | .multiBlockChange => fun s j => (MultiBlockChange.decoder s j).map .multiBlockChange
  | .positionRotation => fun s j => (PositionRotation.decoder s j).map .positionRotation
  | .blockValue => fun s j => (BlockValue.decoder s j).map .blockValue
  | .explosion => fun s j => (Explosion.decoder s j).map .explosion
  | .tileEntityEditor => fun s j => (TileEntityEditor.decoder s j).map .tileEntityEditor
  | .playEffect => fun s j => (PlayEffect.decoder s j).map .playEffect
  | .playSound => fun s j => (PlaySound.decoder s j).map .playSound
  | .particle => fun s j => (Particle.decoder s j).map .particle
  | .spawnPosition => fun s j => (SpawnPosition.decoder s j).map .spawnPosition
  | .updateSign => fun s j => (UpdateSign.decoder s j).map .updateSign
  | .tileEntity => fun s j => (TileEntity.decoder s j).map .tileEntity
  | .time => fun s j => (WorldTime.decoder s j).map .time
  | .openWindow => fun s j => (OpenWindow.decoder s j).map .openWindow
  | .closeWindow => fun s j => (CloseWindow.decoder s j).map .closeWindow
  | .windowProperty => fun s j => (WindowProperty.decoder s j).map .windowProperty
  | .windowItems => fun s j => (WindowItems.decoder s j).map .windowItems
  | .setSlot => fun s j => (SetSlot.decoder s j).map .setSlot
  | .confirmTransaction => fun s j => (ConfirmTransaction.decoder s j).map .confirmTransaction
  | .team => fun s j => (TeamRecord.decoder s j).map .team
  | .join => fun s j => (JoinGame.decoder s j).map .join
  | .respawn => fun s j => (Respawn.decoder s j).map .respawn
  | .notify => fun s j => (Notification.decoder s j).map .notify
  | .experience => fun s j => (Experience.decoder s j).map .experience
  | .abilities => fun s j => (Abilities.decoder s j).map .abilities
  | .mapData => fun s j => (MapData.decoder s j).map .mapData
  | .chat => fun s j => (Chat.decoder s j).map .chat
  | .pluginMessage => fun s j => (PluginMessage.decoder s j).map .pluginMessage

end Payload

inductive Record where
  | typed (payload : Payload)
  /-- A record of a kind left undecoded, holding the JSON value of its payload. -/
  | raw (kind : RecordKind) (data : Json)
deriving Inhabited

/-- The entities a record is about. -/
inductive EntityRef where
  | none
  | single (id : Int32)
  | multiple (ids : List Int32)
deriving Inhabited

namespace Record

def kind : Record → RecordKind
  | .typed p => p.kind
  | .raw k _ => k

def isRaw : Record → Bool
  | .typed _ => false
  | .raw .. => true

/-- The payload as JSON: a typed payload in declaration order, an opaque one as it was
read. -/
def toJson : Record → Json
  | .typed p => p.toJson
  | .raw _ data => data

/-- Reads a payload of the given kind; `fromText` when reading straight from text. -/
def decode (kind : RecordKind) (fromText : Bool) (data : Json) : Except SchemaError Record :=
  (Payload.decoder kind { fromText } data).map .typed

/-- Collecting an item names the collected entity and the collector, attaching names both
entities, and destroying names every destroyed one; every other entity-domain payload names
one entity. -/
def entityRef : Record → EntityRef
  | .typed p =>
    match p with
    | .collectItem d => .multiple [d.collectedEntityId, d.collectorEntityId]
    | .destroy d => .multiple d.entityIds
    | .attach d => .multiple [d.entityId, d.attachedToId]
    | .spawnPlayer d => .single d.entityId
    | .spawnObject d => .single d.entityId
    | .spawnMob d => .single d.entityId
    | .spawnPainting d => .single d.entityId
    | .spawnExpOrb d => .single d.entityId
    | .spawnGlobal d => .single d.entityId
    | .animation d => .single d.entityId
    | .effect d => .single d.entityId
    | .removeEffect d => .single d.entityId
    | .equipment d => .single d.entityId
    | .headLook d => .single d.entityId
    | .metadata d => .single d.entityId
    | .movement d => .single d.entityId
    | .teleport d => .single d.entityId
    | .velocity d => .single d.entityId
    | .properties d => .single d.entityId
    | .status d => .single d.entityId
    | .useBed d => .single d.entityId
    | .blockBreakAnim d => .single d.breakerEntityId
    | _ => .none
  | .raw .. => .none

end Record

/-- A record with its time in milliseconds. -/
structure TimedRecord where
  time : Int64
  record : Record
deriving Inhabited

end SessionSquash
