import SessionSquash.Record.Basic
import SessionSquash.Json.Write
import SessionSquash.Coord
import SessionSquash.Data.KeyMap
import SessionSquash.Squash.Entity
import SessionSquash.Hash.Blake3

namespace SessionSquash

/-- One entity: position in 1/32 blocks and the raw bits of yaw and pitch. -/
structure EntityView where
  position : Int64 × Int64 × Int64
  orientation : UInt32 × UInt32
deriving DecidableEq, Inhabited

namespace EntityView

def ofLocation (l : Location) : EntityView :=
  { position := (toFixed l.x, toFixed l.y, toFixed l.z)
    orientation := (l.yaw.bits, l.pitch.bits) }

def toJson (e : EntityView) : Json :=
  .object [
    ("position", .array [Json.ofInt e.position.1.toInt, Json.ofInt e.position.2.1.toInt,
      Json.ofInt e.position.2.2.toInt]),
    ("orientation", .array [Json.ofNat e.orientation.1.toNat, Json.ofNat e.orientation.2.toNat])]

end EntityView

/-- One loaded column: its sections, its biome and the block overrides written since, each with
its write time. -/
structure ChunkView where
  sections : List (Option (List UInt8))
  biome : Option (List UInt8) := none
  blocks : KeyMap BlockPos (Int64 × UInt32) := {}
deriving Inhabited

namespace ChunkView

/-- A column just loaded: every section empty, no biome, no overrides. -/
def empty : ChunkView := { sections := List.replicate Coord.sectionsPerChunk none }

/-- A column's payloads replace sections, dropping the overrides inside each replaced one. -/
def load (c : ChunkView) (column : ChunkColumn) : ChunkView :=
  let c := column.sections.zipIdx.foldl (fun (c : ChunkView) (section?, index) =>
    match section? with
    | some payload =>
      { c with
        sections := c.sections.set index (some payload)
        blocks := c.blocks.filter fun pos => Coord.sectionOf pos.y != some index }
    | none => c) c
  if column.biome.isSome then { c with biome := column.biome } else c

def toJson (c : ChunkView) : Json :=
  .object [("sections", .array (c.sections.map (Json.ofOption Json.ofBytes))),
    ("biome", Json.ofOption Json.ofBytes c.biome)]

end ChunkView

/-- One team: its info and its players. -/
structure TeamView where
  info : TeamInfo
  players : KeySet String
deriving Inhabited

namespace TeamView

def toJson (t : TeamView) : Json :=
  .object [("info", t.info.toJson), ("players", .array (t.players.elements.map Json.string))]

end TeamView

/-- The session scalars, each unknown until a join or respawn. -/
structure SessionView where
  gameMode : Option GameMode := none
  dimension : Option Int32 := none
  difficulty : Option Difficulty := none
  worldType : Option WorldType := none
deriving DecidableEq, Inhabited

namespace SessionView

def toJson (s : SessionView) : Json :=
  .object [("game_mode", Json.ofOption GameMode.toJson s.gameMode),
    ("dimension", Json.ofOption (fun d => Json.ofInt d.toInt) s.dimension),
    ("difficulty", Json.ofOption Difficulty.toJson s.difficulty),
    ("world_type", Json.ofOption WorldType.toJson s.worldType)]

end SessionView

structure ReplayView where
  entities : KeyMap Int32 EntityView := {}
  chunks : KeyMap UInt64 ChunkView := {}
  teams : KeyMap String TeamView := {}
  session : SessionView := {}
  inventory : KeyMap Int16 (Option ItemStack) := {}
  maps : KeyMap Int32 MapData := {}
deriving Inhabited

namespace ReplayView

def spawn (v : ReplayView) (id : Int32) (l : Location) : ReplayView :=
  { v with entities := v.entities.insert id (EntityView.ofLocation l) }

def still (x y z : Binary64) : Location := { x, y, z, yaw := Binary32.zero, pitch := Binary32.zero }

def column (v : ReplayView) (c : ChunkColumn) : ReplayView :=
  let key := Coord.chunkKey c.x c.z
  if c.isUnload then { v with chunks := v.chunks.erase key }
  else
    let chunk := (v.chunks.find? key).getD ChunkView.empty
    { v with chunks := v.chunks.insert key (chunk.load c) }

/-- A block write lands only inside a loaded column, at a height with a section, and only when
it is strictly newer than the write stored there. -/
def block (v : ReplayView) (time : Int64) (change : BlockChange) : ReplayView :=
  let pos := change.position
  let (cx, cz) := Coord.chunkOfBlock pos.x pos.z
  let key := Coord.chunkKey cx cz
  match Coord.sectionOf pos.y, v.chunks.find? key with
  | some _, some chunk =>
    match chunk.blocks.find? pos with
    | some (stored, _) => if time ≤ stored then v else
      { v with chunks := v.chunks.insert key { chunk with blocks := chunk.blocks.insert pos (time, change.block) } }
    | none =>
      { v with chunks := v.chunks.insert key { chunk with blocks := chunk.blocks.insert pos (time, change.block) } }
  | _, _ => v

def modifyTeam (v : ReplayView) (name : String) (f : TeamView → TeamView) : ReplayView :=
  match v.teams.find? name with
  | some t => { v with teams := v.teams.insert name (f t) }
  | none => v

def team (v : ReplayView) (r : TeamRecord) : ReplayView :=
  match r.action with
  | .create info players =>
    { v with teams := v.teams.insert r.name { info, players := KeySet.ofList players } }
  | .remove => { v with teams := v.teams.erase r.name }
  | .update info => v.modifyTeam r.name fun t => { t with info }
  | .addPlayers players => v.modifyTeam r.name fun t => { t with players := players.foldl KeySet.insert t.players }
  | .removePlayers players => v.modifyTeam r.name fun t => { t with players := players.foldl KeySet.erase t.players }

def moveBy (v : ReplayView) (m : Movement) : ReplayView :=
  match v.entities.find? m.entityId with
  | some e =>
    let e := if m.kind.carriesPosition then
      { e with position := (e.position.1 + toFixed m.dx, e.position.2.1 + toFixed m.dy,
          e.position.2.2 + toFixed m.dz) }
      else e
    let e := if m.kind.carriesRotation then { e with orientation := (m.yaw.bits, m.pitch.bits) } else e
    { v with entities := v.entities.insert m.entityId e }
  | none => v

/-- The main inventory's contents replace the whole inventory; slots beyond the `Int16` range
are left out. -/
def fillInventory (v : ReplayView) (items : List (Option ItemStack)) : ReplayView :=
  let slots := items.zipIdx.filter fun (_, i) => i < 32768
  { v with inventory := slots.foldl (fun m (item, i) => m.insert (Int16.ofNat i) item) {} }

/-- Applies one record. Undecoded records and kinds with no observable end state change
nothing. -/
def apply (v : ReplayView) (timed : TimedRecord) : ReplayView :=
  let time := timed.time
  match timed.record with
  | .raw .. => v
  | .typed p =>
    match p with
    | .spawnPlayer d => v.spawn d.entityId d.location
    | .spawnMob d => v.spawn d.entityId d.location
    | .spawnObject d => v.spawn d.entityId d.location
    | .spawnPainting d =>
      let p := d.position
      v.spawn d.entityId (still (Binary64.ofInt p.x.toInt) (Binary64.ofInt p.y.toInt)
        (Binary64.ofInt p.z.toInt))
    | .spawnExpOrb d => v.spawn d.entityId (still d.x d.y d.z)
    | .spawnGlobal d => v.spawn d.entityId (still d.x d.y d.z)
    | .destroy d => { v with entities := d.entityIds.foldl KeyMap.erase v.entities }
    | .teleport d =>
      if v.entities.contains d.entityId then
        { v with entities := v.entities.insert d.entityId (EntityView.ofLocation d.location) }
      else v
    | .movement d => v.moveBy d
    | .chunkData c => v.column c
    | .multiChunkData d => d.columns.foldl column v
    | .blockChange c => v.block time c
    | .multiBlockChange d => d.records.foldl (block · time ·) v
    | .team d => v.team d
    | .join d =>
      { v with session := { gameMode := some d.gameMode, dimension := some d.dimension,
                            difficulty := some d.difficulty, worldType := some d.worldType } }
    | .respawn d =>
      { v with
        session := { gameMode := some d.gameMode, dimension := some d.dimension,
                     difficulty := some d.difficulty, worldType := some d.worldType }
        entities := {}
        chunks := {} }
    | .notify (.changeGameMode m) => { v with session := { v.session with gameMode := some m } }
    | .windowItems d => if d.isMainInventory then v.fillInventory d.items else v
    | .setSlot d => if d.isMainInventory then { v with inventory := v.inventory.insert d.slot d.item } else v
    | .mapData d => { v with maps := v.maps.insert d.mapId d }
    | _ => v

/-- The view at the end of a recording watched from an empty view. -/
def replay (records : List TimedRecord) : ReplayView := records.foldl apply {}

/-- Every block override with its write time dropped, one per position in position order; a
position that two columns hold keeps the later column's value. -/
def blockValues (v : ReplayView) : List (BlockPos × UInt32) :=
  let all := v.chunks.values.flatMap fun c => c.blocks.entries.map fun (pos, (_, b)) => (pos, b)
  (all.foldl (fun m p => m.insert p.1 p.2) ({} : KeyMap BlockPos UInt32)).entries

/-- Two views hold the same observable state; block write times are not compared. -/
def agrees (a b : ReplayView) : Bool :=
  a.entities.entries == b.entities.entries &&
  a.chunks.entries.length == b.chunks.entries.length &&
  (a.chunks.entries.zip b.chunks.entries).all (fun ((ka, ca), (kb, cb)) =>
    ka == kb && ca.sections == cb.sections && ca.biome == cb.biome) &&
  a.blockValues == b.blockValues &&
  a.teams.entries.map (fun (n, t) => (n, t.info, t.players.elements)) ==
    b.teams.entries.map (fun (n, t) => (n, t.info, t.players.elements)) &&
  a.session == b.session &&
  a.inventory.entries == b.inventory.entries &&
  a.maps.entries == b.maps.entries

/-- A map written as a JSON object, keys in the map's order. -/
def keyed {κ ν : Type} (key : κ → String) (value : ν → Json) (m : KeyMap κ ν) : Json :=
  .object (m.entries.map fun (k, v) => (key k, value v))

def toJson (v : ReplayView) : Json :=
  .object [
    ("entities", keyed (fun k => toString k.toInt) EntityView.toJson v.entities),
    ("chunks", keyed (fun k => toString k.toNat) ChunkView.toJson v.chunks),
    ("teams", keyed id TeamView.toJson v.teams),
    ("session", v.session.toJson),
    ("inventory", keyed (fun k => toString k.toInt) (Json.ofOption ItemStack.toJson) v.inventory),
    ("maps", keyed (fun k => toString k.toInt) MapData.toJson v.maps)]

/-- The canonical form the digest is taken of: the view, then the block values. -/
def canonical (v : ReplayView) : Json :=
  .object [("view", v.toJson),
    ("blocks", .array (v.blockValues.map fun (pos, b) => .array [pos.toJson, Json.ofNat b.toNat]))]

/-- BLAKE3 of the compact canonical form, as `blake3:` and 64 hex digits. -/
def digest (v : ReplayView) : String :=
  "blake3:" ++ Blake3.hex (Blake3.hash v.canonical.compact.toUTF8.toList)

end ReplayView

/-- A squash is faithful when its output replays to the state its input replays to. -/
def verifySquash (recording squashed : List TimedRecord) : Bool :=
  (ReplayView.replay recording).agrees (ReplayView.replay squashed)

end SessionSquash
