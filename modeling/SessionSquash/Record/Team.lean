import SessionSquash.Record.Shared

namespace SessionSquash

/-- Display properties of a scoreboard team. -/
structure TeamInfo where
  displayName : String
  /-- Text shown before a member's name. -/
  leading : String
  /-- Text shown after a member's name. -/
  trailing : String
  friendlyFire : FriendlyFire
deriving Inhabited, DecidableEq

namespace TeamInfo

def decoder : Decoder TeamInfo :=
  Decoder.record "TeamInfo" 4 do
    let displayName ← Fields.required "display_name" Decoder.string
    let leading ← Fields.withDefault "prefix" Decoder.string ""
    let trailing ← Fields.withDefault "suffix" Decoder.string ""
    let friendlyFire ← Fields.required "friendly_fire" FriendlyFire.decoder
    return { displayName, leading, trailing, friendlyFire }

def toJson (r : TeamInfo) : Json :=
  .object [("display_name", .string r.displayName),
    ("prefix", .string r.leading),
    ("suffix", .string r.trailing),
    ("friendly_fire", r.friendlyFire.toJson)]

end TeamInfo

/-- What a team record does to the named team. -/
inductive TeamAction where
  | create (info : TeamInfo) (players : List String)
  | remove
  | update (info : TeamInfo)
  | addPlayers (players : List String)
  | removePlayers (players : List String)
deriving Inhabited, DecidableEq

namespace TeamAction

def players : Decoder (List String) := Decoder.list Decoder.string

def decode : Origin → List (String × Json) → Except SchemaError TeamAction :=
  Decoder.tagged "action" [
    ("create", fun origin members => Fields.onMembers (do
      let info ← Fields.required "info" TeamInfo.decoder
      let players ← Fields.required "players" players
      return .create info players) origin members),
    ("remove", Decoder.unitVariant .remove),
    ("update", fun origin members => Fields.onMembers (do
      let info ← Fields.required "info" TeamInfo.decoder
      return .update info) origin members),
    ("add_players", fun origin members => Fields.onMembers (do
      let players ← Fields.required "players" players
      return .addPlayers players) origin members),
    ("remove_players", fun origin members => Fields.onMembers (do
      let players ← Fields.required "players" players
      return .removePlayers players) origin members)]

def playerList (players : List String) : Json := .array (players.map Json.string)

/-- The action's members: its name under `action`, then its fields. -/
def members : TeamAction → List (String × Json)
  | .create info players =>
    [("action", .string "create"), ("info", info.toJson), ("players", playerList players)]
  | .remove => [("action", .string "remove")]
  | .update info => [("action", .string "update"), ("info", info.toJson)]
  | .addPlayers players => [("action", .string "add_players"), ("players", playerList players)]
  | .removePlayers players =>
    [("action", .string "remove_players"), ("players", playerList players)]

end TeamAction

structure TeamRecord where
  name : String
  action : TeamAction
deriving Inhabited, DecidableEq

namespace TeamRecord

def decoder : Decoder TeamRecord := fun origin j =>
  match j with
  | .object members => do
    let name ← Decoder.member Decoder.string origin members "name"
    let action ← TeamAction.decode origin (members.filter (·.1 != "name"))
    return { name, action }
  | j => .error (.invalidType j.unexpected "struct TeamData")

def toJson (r : TeamRecord) : Json := .object (("name", .string r.name) :: r.action.members)

end TeamRecord

end SessionSquash
