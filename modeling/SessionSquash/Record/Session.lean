import SessionSquash.Record.Shared

namespace SessionSquash

structure JoinGame where
  entityId : Int32
  hardcore : Bool
  gameMode : GameMode
  dimension : Int32
  difficulty : Difficulty
  maxPlayers : UInt8
  worldType : WorldType
  reducedDebugInfo : Bool
deriving Inhabited

namespace JoinGame

def decoder : Decoder JoinGame :=
  Decoder.record "JoinGameData" 8 do
    let entityId ← Fields.required "entity_id" Decoder.int32
    let hardcore ← Fields.withDefault "hardcore" Decoder.bool false
    let gameMode ← Fields.required "game_mode" GameMode.decoder
    let dimension ← Fields.required "dimension" Decoder.int32
    let difficulty ← Fields.required "difficulty" Difficulty.decoder
    let maxPlayers ← Fields.required "max_players" Decoder.uint8
    let worldType ← Fields.required "world_type" WorldType.decoder
    let reducedDebugInfo ← Fields.withDefault "reduced_debug_info" Decoder.bool false
    return { entityId, hardcore, gameMode, dimension, difficulty, maxPlayers, worldType, reducedDebugInfo }

def toJson (r : JoinGame) : Json :=
  .object [("entity_id", Json.ofInt r.entityId.toInt),
    ("hardcore", .bool r.hardcore),
    ("game_mode", r.gameMode.toJson),
    ("dimension", Json.ofInt r.dimension.toInt),
    ("difficulty", r.difficulty.toJson),
    ("max_players", Json.ofNat r.maxPlayers.toNat),
    ("world_type", r.worldType.toJson),
    ("reduced_debug_info", .bool r.reducedDebugInfo)]

end JoinGame

structure Respawn where
  dimension : Int32
  difficulty : Difficulty
  gameMode : GameMode
  worldType : WorldType
deriving Inhabited

namespace Respawn

def decoder : Decoder Respawn :=
  Decoder.record "RespawnData" 4 do
    let dimension ← Fields.required "dimension" Decoder.int32
    let difficulty ← Fields.required "difficulty" Difficulty.decoder
    let gameMode ← Fields.required "game_mode" GameMode.decoder
    let worldType ← Fields.required "world_type" WorldType.decoder
    return { dimension, difficulty, gameMode, worldType }

def toJson (r : Respawn) : Json :=
  .object [("dimension", Json.ofInt r.dimension.toInt),
    ("difficulty", r.difficulty.toJson),
    ("game_mode", r.gameMode.toJson),
    ("world_type", r.worldType.toJson)]

end Respawn

/-- Client notifications; only a change of game mode carries session state. -/
inductive Notification where
  | invalidBed
  | startRain
  | stopRain
  | changeGameMode (gameMode : GameMode)
  | enterCredits
  | demoMessage (value : Binary32)
  | arrowHitPlayer
  | rainStrength (value : Binary32)
  | thunderStrength (value : Binary32)
deriving Inhabited

namespace Notification

def valueVariant (make : Binary32 → Notification) :
    Origin → List (String × Json) → Except SchemaError Notification :=
  fun origin members => Fields.onMembers (do
    let value ← Fields.required "value" Decoder.single
    return make value) origin members

def decoder : Decoder Notification := fun origin j =>
  match j with
  | .object members =>
    Decoder.tagged "reason" [
      ("invalid_bed", Decoder.unitVariant .invalidBed),
      ("start_rain", Decoder.unitVariant .startRain),
      ("stop_rain", Decoder.unitVariant .stopRain),
      ("change_game_mode", fun origin members => Fields.onMembers (do
        let gameMode ← Fields.required "game_mode" GameMode.decoder
        return .changeGameMode gameMode) origin members),
      ("enter_credits", Decoder.unitVariant .enterCredits),
      ("demo_message", valueVariant .demoMessage),
      ("arrow_hit_player", Decoder.unitVariant .arrowHitPlayer),
      ("rain_strength", valueVariant .rainStrength),
      ("thunder_strength", valueVariant .thunderStrength)] origin members
  | j => .error (.invalidType j.unexpected "struct NotifyClientData")

def toJson : Notification → Json
  | .invalidBed => .object [("reason", .string "invalid_bed")]
  | .startRain => .object [("reason", .string "start_rain")]
  | .stopRain => .object [("reason", .string "stop_rain")]
  | .changeGameMode m => .object [("reason", .string "change_game_mode"), ("game_mode", m.toJson)]
  | .enterCredits => .object [("reason", .string "enter_credits")]
  | .demoMessage v => .object [("reason", .string "demo_message"), ("value", Json.ofSingle v)]
  | .arrowHitPlayer => .object [("reason", .string "arrow_hit_player")]
  | .rainStrength v => .object [("reason", .string "rain_strength"), ("value", Json.ofSingle v)]
  | .thunderStrength v =>
    .object [("reason", .string "thunder_strength"), ("value", Json.ofSingle v)]

end Notification

structure Experience where
  experience : Binary32
  level : Int32
  totalExperience : Int32
deriving Inhabited

namespace Experience

def decoder : Decoder Experience :=
  Decoder.record "SetExperienceData" 3 do
    let experience ← Fields.required "experience" Decoder.single
    let level ← Fields.required "level" Decoder.int32
    let totalExperience ← Fields.required "total_experience" Decoder.int32
    return { experience, level, totalExperience }

def toJson (r : Experience) : Json :=
  .object [("experience", Json.ofSingle r.experience),
    ("level", Json.ofInt r.level.toInt),
    ("total_experience", Json.ofInt r.totalExperience.toInt)]

end Experience

structure Abilities where
  invincible : Bool
  canFly : Bool
  flying : Bool
  creative : Bool
  flySpeed : Binary32
  walkSpeed : Binary32
deriving Inhabited

namespace Abilities

def decoder : Decoder Abilities :=
  Decoder.record "PlayerAbilitiesData" 6 do
    let invincible ← Fields.withDefault "invincible" Decoder.bool false
    let canFly ← Fields.withDefault "can_fly" Decoder.bool false
    let flying ← Fields.withDefault "flying" Decoder.bool false
    let creative ← Fields.withDefault "creative" Decoder.bool false
    let flySpeed ← Fields.required "fly_speed" Decoder.single
    let walkSpeed ← Fields.required "walk_speed" Decoder.single
    return { invincible, canFly, flying, creative, flySpeed, walkSpeed }

def toJson (r : Abilities) : Json :=
  .object [("invincible", .bool r.invincible),
    ("can_fly", .bool r.canFly),
    ("flying", .bool r.flying),
    ("creative", .bool r.creative),
    ("fly_speed", Json.ofSingle r.flySpeed),
    ("walk_speed", Json.ofSingle r.walkSpeed)]

end Abilities

structure MapData where
  mapId : Int32
  scale : UInt8
  data : List UInt8
deriving Inhabited, DecidableEq

namespace MapData

def decoder : Decoder MapData :=
  Decoder.record "MapDataData" 3 do
    let mapId ← Fields.required "map_id" Decoder.int32
    let scale ← Fields.withDefault "scale" Decoder.uint8 0
    let data ← Fields.withDefault "data" Decoder.bytes []
    return { mapId, scale, data }

def toJson (r : MapData) : Json :=
  .object [("map_id", Json.ofInt r.mapId.toInt),
    ("scale", Json.ofNat r.scale.toNat),
    ("data", Json.ofBytes r.data)]

end MapData

end SessionSquash
