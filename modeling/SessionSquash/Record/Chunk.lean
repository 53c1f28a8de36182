import SessionSquash.Record.Shared

namespace SessionSquash

/-- A chunk column: sixteen optional section payloads and an optional biome map. -/
structure ChunkColumn where
  x : Int32
  z : Int32
  sections : List (Option (List UInt8))
  sections_length : sections.length = 16
  biome : Option (List UInt8)

namespace ChunkColumn

def decoder : Decoder ChunkColumn :=
  Decoder.record "ChunkColumn" 4 do
    let x ← Fields.required "x" Decoder.int32
    let z ← Fields.required "z" Decoder.int32
    let sections ← Fields.required "sections" (Decoder.exactly 16 (Decoder.option Decoder.bytes))
    let biome ← Fields.withDefault "biome" (Decoder.option Decoder.bytes) none
    return { x, z, sections := sections.toList, sections_length := sections.length_toList, biome }

def toJson (r : ChunkColumn) : Json :=
  .object ([("x", Json.ofInt r.x.toInt)] ++
    [("z", Json.ofInt r.z.toInt)] ++
    [("sections", .array (r.sections.map (Json.ofOption Json.ofBytes)))] ++
    r.biome.toList.map (fun x => ("biome", Json.ofBytes x)))

end ChunkColumn

structure MultiChunk where
  columns : List ChunkColumn
deriving Inhabited

namespace MultiChunk

def decoder : Decoder MultiChunk :=
  Decoder.record "MultiChunkData" 1 do
    let columns ← Fields.required "columns" (Decoder.list ChunkColumn.decoder)
    return { columns }

def toJson (r : MultiChunk) : Json :=
  .object [("columns", .array (r.columns.map ChunkColumn.toJson))]

end MultiChunk

/-- A single block state change at a world position. -/
structure BlockChange where
  position : BlockPos
  block : UInt32
deriving Inhabited

namespace BlockChange

def decoder : Decoder BlockChange :=
  Decoder.record "BlockChangeRecord" 2 do
    let position ← Fields.required "position" BlockPos.decoder
    let block ← Fields.required "block" Decoder.uint32
    return { position, block }

def toJson (r : BlockChange) : Json :=
  .object [("position", r.position.toJson),
    ("block", Json.ofNat r.block.toNat)]

end BlockChange

structure MultiBlockChange where
  records : List BlockChange
deriving Inhabited

namespace MultiBlockChange

def decoder : Decoder MultiBlockChange :=
  Decoder.record "MultiBlockChangeData" 1 do
    let records ← Fields.required "records" (Decoder.list BlockChange.decoder)
    return { records }

def toJson (r : MultiBlockChange) : Json :=
  .object [("records", .array (r.records.map BlockChange.toJson))]

end MultiBlockChange

/-- A column whose sections are all absent unloads it. -/
def ChunkColumn.isUnload (c : ChunkColumn) : Bool := c.sections.all Option.isNone

theorem ChunkColumn.length_noSections :
    (List.replicate 16 (none : Option (List UInt8))).length = 16 :=
  List.length_replicate

/-- The unload form of a column: no sections and no biome. -/
def ChunkColumn.unload (x z : Int32) : ChunkColumn :=
  ⟨x, z, List.replicate 16 none, ChunkColumn.length_noSections, none⟩

instance : Inhabited ChunkColumn := ⟨ChunkColumn.unload 0 0⟩

end SessionSquash
