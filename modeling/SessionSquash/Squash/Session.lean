import SessionSquash.Record.Basic
import SessionSquash.Data.KeyMap

namespace SessionSquash

structure SessionState where
  gameMode : Option GameMode := none
  dimension : Option Int32 := none
  difficulty : Option Difficulty := none
  worldType : Option WorldType := none
  join : Option (Int64 × JoinGame) := none
  respawn : Option (Int64 × Respawn) := none
  experience : Option Experience := none
  abilities : Option Abilities := none
  maps : KeyMap Int32 MapData := {}
deriving Inhabited

namespace SessionState

def onJoin (s : SessionState) (time : Int64) (j : JoinGame) : SessionState :=
  { s with
    gameMode := some j.gameMode
    dimension := some j.dimension
    difficulty := some j.difficulty
    worldType := some j.worldType
    join := some (time, j) }

def onRespawn (s : SessionState) (time : Int64) (r : Respawn) : SessionState :=
  { s with
    gameMode := some r.gameMode
    dimension := some r.dimension
    difficulty := some r.difficulty
    worldType := some r.worldType
    respawn := some (time, r) }

def onGameMode (s : SessionState) (m : GameMode) : SessionState := { s with gameMode := some m }

def onExperience (s : SessionState) (e : Experience) : SessionState := { s with experience := some e }

def onAbilities (s : SessionState) (a : Abilities) : SessionState := { s with abilities := some a }

def onMap (s : SessionState) (m : MapData) : SessionState := { s with maps := s.maps.insert m.mapId m }

def mapCount (s : SessionState) : Nat := s.maps.size

/-- The session record, then experience and abilities; records without a time of their own
take `lastTime`. -/
def synthesizeSession (s : SessionState) (lastTime : Int64) : List TimedRecord :=
  let session : List TimedRecord :=
    match s.join, s.respawn, s.gameMode with
    | some (time, j), _, _ =>
      let merged : JoinGame := { j with
        gameMode := s.gameMode.getD j.gameMode
        dimension := s.dimension.getD j.dimension
        difficulty := s.difficulty.getD j.difficulty
        worldType := s.worldType.getD j.worldType }
      [⟨time, .typed (.join merged)⟩]
    | none, some (time, r), _ =>
      let merged : Respawn := {
        dimension := s.dimension.getD r.dimension
        difficulty := s.difficulty.getD r.difficulty
        gameMode := s.gameMode.getD r.gameMode
        worldType := s.worldType.getD r.worldType }
      [⟨time, .typed (.respawn merged)⟩]
    | none, none, some m => [⟨lastTime, .typed (.notify (.changeGameMode m))⟩]
    | none, none, none => []
  session ++ s.experience.toList.map (fun e => ⟨lastTime, .typed (.experience e)⟩) ++
    s.abilities.toList.map (fun a => ⟨lastTime, .typed (.abilities a)⟩)

/-- The last record of each map, by id, all at `time`. -/
def synthesizeMaps (s : SessionState) (time : Int64) : List TimedRecord :=
  s.maps.values.map fun m => ⟨time, .typed (.mapData m)⟩

end SessionState

end SessionSquash
