namespace SessionSquash

/-- The tracker family a record kind belongs to. -/
inductive Domain where
  | entity
  | chunk
  | world
  | window
  | team
  | session
  | other
deriving DecidableEq, Repr, Inhabited

def Domain.name : Domain → String
  | .entity => "entity"
  | .chunk => "chunk"
  | .world => "world"
  | .window => "window"
  | .team => "team"
  | .session => "session"
  | .other => "other"

/-- Every kind of record the log knows, in catalog order. -/
inductive RecordKind where
  | spawnPlayer
  | spawnObject
  | spawnMob
  | spawnPainting
  | spawnExpOrb
  | spawnGlobal
  | animation
  | collectItem
  | destroy
  | attach
  | effect
  | removeEffect
  | equipment
  | headLook
  | metadata
  | movement
  | teleport
  | velocity
  | properties
  | status
  | useBed
  | blockBreakAnim
  | chunkData
  | multiChunkData
  | blockChange
  | multiBlockChange
  | positionRotation
  | blockValue
  | explosion
  | tileEntityEditor
  | playEffect
  | playSound
  | particle
  | spawnPosition
  | updateSign
  | tileEntity
  | time
  | openWindow
  | closeWindow
  | windowProperty
  | windowItems
  | setSlot
  | confirmTransaction
  | team
  | join
  | respawn
  | notify
  | experience
  | abilities
  | mapData
  | chat
  | pluginMessage
deriving DecidableEq, Repr, Inhabited

namespace RecordKind

/-- All kinds in catalog order. -/
def all : List RecordKind :=
  [.spawnPlayer,
    .spawnObject,
    .spawnMob,
    .spawnPainting,
    .spawnExpOrb,
    .spawnGlobal,
    .animation,
    .collectItem,
    .destroy,
    .attach,
    .effect,
    .removeEffect,
    .equipment,
    .headLook,
    .metadata,
    .movement,
    .teleport,
    .velocity,
    .properties,
    .status,
    .useBed,
    .blockBreakAnim,
    .chunkData,
    .multiChunkData,
    .blockChange,
    .multiBlockChange,
    .positionRotation,
    .blockValue,
    .explosion,
    .tileEntityEditor,
    .playEffect,
    .playSound,
    .particle,
    .spawnPosition,
    .updateSign,
    .tileEntity,
    .time,
    .openWindow,
    .closeWindow,
    .windowProperty,
    .windowItems,
    .setSlot,
    .confirmTransaction,
    .team,
    .join,
    .respawn,
    .notify,
    .experience,
    .abilities,
    .mapData,
    .chat,
    .pluginMessage]

/-- The dotted name written in the record log. -/
def name : RecordKind → String
  | .spawnPlayer => "entity.spawn_player"
  | .spawnObject => "entity.spawn_object"
  | .spawnMob => "entity.spawn_mob"
  | .spawnPainting => "entity.spawn_painting"
  | .spawnExpOrb => "entity.spawn_exp_orb"
  | .spawnGlobal => "entity.spawn_global"
  | .animation => "entity.animation"
  | .collectItem => "entity.collect_item"
  | .destroy => "entity.destroy"
  | .attach => "entity.attach"
  | .effect => "entity.effect"
  | .removeEffect => "entity.remove_effect"
  | .equipment => "entity.equipment"
  | .headLook => "entity.head_look"
  | .metadata => "entity.metadata"
  | .movement => "entity.movement"
  | .teleport => "entity.teleport"
  | .velocity => "entity.velocity"
  | .properties => "entity.properties"
  | .status => "entity.status"
  | .useBed => "entity.use_bed"
  | .blockBreakAnim => "world.block_break_anim"
  | .chunkData => "world.chunk_data"
  | .multiChunkData => "world.multi_chunk_data"
  | .blockChange => "world.block_change"
  | .multiBlockChange => "world.multi_block_change"
  | .positionRotation => "player.position_rotation"
  | .blockValue => "world.block_value"
  | .explosion => "world.explosion"
  | .tileEntityEditor => "world.tile_entity_editor"
  | .playEffect => "world.play_effect"
  | .playSound => "world.play_sound"
  | .particle => "world.particle"
  | .spawnPosition => "world.spawn_position"
  | .updateSign => "world.update_sign"
  | .tileEntity => "world.tile_entity"
  | .time => "world.time"
  | .openWindow => "window.open"
  | .closeWindow => "window.close"
  | .windowProperty => "window.property"
  | .windowItems => "window.items"
  | .setSlot => "window.set_slot"
  | .confirmTransaction => "window.confirm_transaction"
  | .team => "scoreboard.team"
  | .join => "session.join"
  | .respawn => "session.respawn"
  | .notify => "session.notify"
  | .experience => "player.experience"
  | .abilities => "player.abilities"
  | .mapData => "world.map_data"
  | .chat => "chat.message"
  | .pluginMessage => "plugin.message"

/-- `world.block_break_anim` belongs to the entities: it names the breaking entity and lives
and dies with it. -/
def domain : RecordKind → Domain
  | .spawnPlayer => .entity
  | .spawnObject => .entity
  | .spawnMob => .entity
  | .spawnPainting => .entity
  | .spawnExpOrb => .entity
  | .spawnGlobal => .entity
  | .animation => .entity
  | .collectItem => .entity
  | .destroy => .entity
  | .attach => .entity
  | .effect => .entity
  | .removeEffect => .entity
  | .equipment => .entity
  | .headLook => .entity
  | .metadata => .entity
  | .movement => .entity
  | .teleport => .entity
  | .velocity => .entity
  | .properties => .entity
  | .status => .entity
  | .useBed => .entity
  | .blockBreakAnim => .entity
  | .chunkData => .chunk
  | .multiChunkData => .chunk
  | .blockChange => .chunk
  | .multiBlockChange => .chunk
  | .positionRotation => .world
  | .blockValue => .world
  | .explosion => .world
  | .tileEntityEditor => .world
  | .playEffect => .world
  | .playSound => .world
  | .particle => .world
  | .spawnPosition => .world
  | .updateSign => .world
  | .tileEntity => .world
  | .time => .world
  | .openWindow => .window
  | .closeWindow => .window
  | .windowProperty => .window
  | .windowItems => .window
  | .setSlot => .window
  | .confirmTransaction => .window
  | .team => .team
  | .join => .session
  | .respawn => .session
  | .notify => .session
  | .experience => .session
  | .abilities => .session
  | .mapData => .session
  | .chat => .other
  | .pluginMessage => .other

/-- The position in the catalog. -/
def index (k : RecordKind) : Nat := all.idxOf k

/-- The kind with this exact dotted name. -/
def ofName? (s : String) : Option RecordKind := all.find? (·.name == s)

end RecordKind

/-- The text given when a name is not a kind. -/
def unknownKindMessage (raw : String) : String :=
  s!"unknown record kind '{raw}': expected a dotted name such as entity.teleport or world.chunk_data"

end SessionSquash
