import SessionSquash.Json.Decode

namespace SessionSquash

/-- An absolute position with orientation, in blocks and degrees. -/
structure Location where
  x : Binary64
  y : Binary64
  z : Binary64
  yaw : Binary32
  pitch : Binary32
deriving Inhabited

namespace Location

def decoder : Decoder Location :=
  Decoder.record "Location" 5 do
    let x ← Fields.required "x" Decoder.double
    let y ← Fields.required "y" Decoder.double
    let z ← Fields.required "z" Decoder.double
    let yaw ← Fields.withDefault "yaw" Decoder.single Binary32.zero
    let pitch ← Fields.withDefault "pitch" Decoder.single Binary32.zero
    return { x, y, z, yaw, pitch }

def toJson (r : Location) : Json :=
  .object [("x", Json.ofDouble r.x),
    ("y", Json.ofDouble r.y),
    ("z", Json.ofDouble r.z),
    ("yaw", Json.ofSingle r.yaw),
    ("pitch", Json.ofSingle r.pitch)]

end Location

/-- An integer block position in world coordinates. -/
structure BlockPos where
  x : Int32
  y : Int32
  z : Int32
deriving Inhabited, DecidableEq

namespace BlockPos

def decoder : Decoder BlockPos :=
  Decoder.record "BlockPos" 3 do
    let x ← Fields.required "x" Decoder.int32
    let y ← Fields.required "y" Decoder.int32
    let z ← Fields.required "z" Decoder.int32
    return { x, y, z }

def toJson (r : BlockPos) : Json :=
  .object [("x", Json.ofInt r.x.toInt),
    ("y", Json.ofInt r.y.toInt),
    ("z", Json.ofInt r.z.toInt)]

/-- Positions ordered by `x`, then `y`, then `z`. -/
def compare (a b : BlockPos) : Ordering :=
  (Ord.compare a.x b.x).then ((Ord.compare a.y b.y).then (Ord.compare a.z b.z))

instance : Ord BlockPos := ⟨compare⟩

end BlockPos

structure ItemStack where
  id : Int32
  amount : UInt8
  damage : Int16
  nbt : Option (List UInt8)
deriving Inhabited, DecidableEq

namespace ItemStack

def decoder : Decoder ItemStack :=
  Decoder.record "ItemStack" 4 do
    let id ← Fields.required "id" Decoder.int32
    let amount ← Fields.required "amount" Decoder.uint8
    let damage ← Fields.withDefault "damage" Decoder.int16 0
    let nbt ← Fields.withDefault "nbt" (Decoder.option Decoder.bytes) none
    return { id, amount, damage, nbt }

def toJson (r : ItemStack) : Json :=
  .object ([("id", Json.ofInt r.id.toInt)] ++
    [("amount", Json.ofNat r.amount.toNat)] ++
    [("damage", Json.ofInt r.damage.toInt)] ++
    r.nbt.toList.map (fun x => ("nbt", Json.ofBytes x)))

end ItemStack

inductive GameMode where
  | survival
  | creative
  | adventure
  | spectator
deriving DecidableEq, Inhabited, Repr

namespace GameMode

def all : List GameMode := [.survival, .creative, .adventure, .spectator]

def name : GameMode → String
  | .survival => "survival"
  | .creative => "creative"
  | .adventure => "adventure"
  | .spectator => "spectator"

def decoder : Decoder GameMode := Decoder.variant (all.map fun v => (v.name, v))

def toJson (v : GameMode) : Json := .string v.name

end GameMode

inductive Difficulty where
  | peaceful
  | easy
  | normal
  | hard
deriving DecidableEq, Inhabited, Repr

namespace Difficulty

def all : List Difficulty := [.peaceful, .easy, .normal, .hard]

def name : Difficulty → String
  | .peaceful => "peaceful"
  | .easy => "easy"
  | .normal => "normal"
  | .hard => "hard"

def decoder : Decoder Difficulty := Decoder.variant (all.map fun v => (v.name, v))

def toJson (v : Difficulty) : Json := .string v.name

end Difficulty

inductive WorldType where
  | default
  | flat
  | largeBiomes
  | amplified
  | customized
  | debug
deriving DecidableEq, Inhabited, Repr

namespace WorldType

def all : List WorldType := [.default, .flat, .largeBiomes, .amplified, .customized, .debug]

def name : WorldType → String
  | .default => "default"
  | .flat => "flat"
  | .largeBiomes => "large_biomes"
  | .amplified => "amplified"
  | .customized => "customized"
  | .debug => "debug"

def decoder : Decoder WorldType := Decoder.variant (all.map fun v => (v.name, v))

def toJson (v : WorldType) : Json := .string v.name

end WorldType

inductive FriendlyFire where
  | on
  | off
  | friendliesVisible
deriving DecidableEq, Inhabited, Repr

namespace FriendlyFire

def all : List FriendlyFire := [.on, .off, .friendliesVisible]

def name : FriendlyFire → String
  | .on => "on"
  | .off => "off"
  | .friendliesVisible => "friendlies_visible"

def decoder : Decoder FriendlyFire := Decoder.variant (all.map fun v => (v.name, v))

def toJson (v : FriendlyFire) : Json := .string v.name

end FriendlyFire

/-- Which components a relative movement carries. -/
inductive MovementKind where
  | position
  | rotation
  | positionRotation
deriving DecidableEq, Inhabited, Repr

namespace MovementKind

def all : List MovementKind := [.position, .rotation, .positionRotation]

def name : MovementKind → String
  | .position => "position"
  | .rotation => "rotation"
  | .positionRotation => "position_rotation"

def decoder : Decoder MovementKind := Decoder.variant (all.map fun v => (v.name, v))

def toJson (v : MovementKind) : Json := .string v.name

end MovementKind

def MovementKind.carriesPosition : MovementKind → Bool
  | .position | .positionRotation => true
  | .rotation => false

def MovementKind.carriesRotation : MovementKind → Bool
  | .rotation | .positionRotation => true
  | .position => false

end SessionSquash
