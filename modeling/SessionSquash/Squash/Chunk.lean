import SessionSquash.Record.Basic
import SessionSquash.Data.KeyMap
import SessionSquash.Coord

namespace SessionSquash

/-- What became of a block change. -/
inductive BlockUpdate where
  /-- Kept as the newest change of its position. -/
  | stored
  /-- A change at least as new already holds the position. -/
  | stale
  /-- No tracked column holds the position. -/
  | orphaned
deriving DecidableEq, Inhabited

/-- Running state of one loaded column. -/
structure ChunkState where
  firstAppearance : Int64
  x : Int32
  z : Int32
  sections : List (Option (List UInt8)) := List.replicate 16 none
  sections_length : sections.length = 16 := by exact ChunkColumn.length_noSections
  biome : Option (List UInt8) := none
  /-- Newest change per position, keyed by section then index in the section. -/
  blockChanges : KeyMap Nat (Int64 × BlockChange) := {}
deriving Inhabited

namespace ChunkState

def changeKey (level index : Nat) : Nat := level * 65536 + index

def section? (c : ChunkState) (i : Nat) : Option (List UInt8) := (c.sections[i]?).getD none

def blockChangeCount (c : ChunkState) : Nat := c.blockChanges.size

/-- One section a column sends: a payload replaces the section and drops the changes kept in
it. -/
def sectionStep (c : ChunkState) (e : Nat × Option (List UInt8)) : ChunkState :=
  match e with
  | (i, s) =>
    match s with
    | some payload =>
      { c with
        blockChanges := c.blockChanges.filter fun k => k / 65536 != i
        sections := c.sections.set i (some payload)
        sections_length := (List.length_set ..).trans c.sections_length }
    | none => c

/-- Takes in the sections a column sends, dropping the changes they supersede, and its
biome if it sends one. -/
def apply (c : ChunkState) (column : ChunkColumn) : ChunkState :=
  let indexed := (List.range column.sections.length).zip column.sections
  let c := indexed.foldl sectionStep c
  match column.biome with
  | some b => { c with biome := some b }
  | none => c

def toColumn (c : ChunkState) : ChunkColumn := ⟨c.x, c.z, c.sections, c.sections_length, c.biome⟩

end ChunkState

structure ChunkTracker where
  chunks : KeyMap UInt64 ChunkState := {}
  pendingUnloads : KeyMap UInt64 Int64 := {}
deriving Inhabited

namespace ChunkTracker

def size (t : ChunkTracker) : Nat := t.chunks.size

def get? (t : ChunkTracker) (x z : Int32) : Option ChunkState := t.chunks.find? (Coord.chunkKey x z)

/-- One column of a chunk record. -/
def onColumn (t : ChunkTracker) (time : Int64) (column : ChunkColumn) : ChunkTracker :=
  let key := Coord.chunkKey column.x column.z
  if column.isUnload then
    if t.chunks.contains key then { t with chunks := t.chunks.erase key }
    else { t with pendingUnloads := t.pendingUnloads.insert key time }
  else
    let fresh : ChunkState := { firstAppearance := time, x := column.x, z := column.z }
    { chunks := t.chunks.alter key fresh (·.apply column)
      pendingUnloads := t.pendingUnloads.erase key }

/-- One block change, keeping the newest change per position. -/
def onBlock (t : ChunkTracker) (time : Int64) (change : BlockChange) : ChunkTracker × BlockUpdate :=
  let pos := change.position
  let (cx, cz) := Coord.chunkOfBlock pos.x pos.z
  let key := Coord.chunkKey cx cz
  match t.chunks.find? key, Coord.sectionOf pos.y with
  | some chunk, some level =>
    let k := ChunkState.changeKey level (Coord.blockIndex pos.x pos.y pos.z).toNat
    let updated : ChunkState := { chunk with blockChanges := chunk.blockChanges.insert k (time, change) }
    match chunk.blockChanges.find? k with
    | some (stored, _) =>
      if time ≤ stored then (t, .stale)
      else ({ t with chunks := t.chunks.insert key updated }, .stored)
    | none => ({ t with chunks := t.chunks.insert key updated }, .stored)
  | _, _ => (t, .orphaned)

def clear (_ : ChunkTracker) : ChunkTracker := {}

/-- Pending unloads, then each column followed by its block changes. -/
def synthesize (t : ChunkTracker) : List TimedRecord :=
  let unloads := t.pendingUnloads.entries.map fun (key, time) =>
    (⟨time, .typed (.chunkData (ChunkColumn.unload (Coord.keyX key) (Coord.keyZ key)))⟩ : TimedRecord)
  let columns := t.chunks.values.flatMap fun c =>
    (⟨c.firstAppearance, .typed (.chunkData c.toColumn)⟩ : TimedRecord) ::
      c.blockChanges.values.map fun (time, change) => ⟨time, .typed (.blockChange change)⟩
  unloads ++ columns

end ChunkTracker

end SessionSquash
