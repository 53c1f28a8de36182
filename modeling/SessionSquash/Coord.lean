namespace SessionSquash

namespace Coord

def sectionsPerChunk : Nat := 16

/-- Packs a chunk coordinate into one key, `x` in the high half. -/
def chunkKey (x z : Int32) : UInt64 :=
  (x.toUInt32.toUInt64 <<< 32) ||| z.toUInt32.toUInt64

def keyX (key : UInt64) : Int32 := (key >>> 32).toUInt32.toInt32

def keyZ (key : UInt64) : Int32 := key.toUInt32.toInt32

/-- The chunk coordinate containing a block, by arithmetic shift. -/
def chunkOfBlock (x z : Int32) : Int32 × Int32 := (x >>> 4, z >>> 4)

/-- The section holding height `y`, if the height lies inside the column. -/
def sectionOf (y : Int32) : Option Nat :=
  let s := y.toInt / 16
  if 0 ≤ s && s < 16 then some s.toNat else none

/-- A block's index in its section: Euclidean remainders mod 16 packed as `x<<10|y<<5|z`. -/
def blockIndex (x y z : Int32) : UInt16 :=
  let r (v : Int32) : Nat := (v.toInt % 16).toNat
  (r x * 1024 + r y * 32 + r z).toUInt16

def unpackIndex (index : UInt16) : Nat × Nat × Nat :=
  let i := index.toNat
  (i / 1024 % 32, i / 32 % 32, i % 32)

end Coord

end SessionSquash
