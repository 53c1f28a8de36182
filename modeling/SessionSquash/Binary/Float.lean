import SessionSquash.Binary.Format

namespace SessionSquash

/-- A double precision number, kept as its bit pattern. -/
structure Binary64 where
  bits : UInt64
deriving DecidableEq, Inhabited, Repr

/-- A single precision number, kept as its bit pattern. -/
structure Binary32 where
  bits : UInt32
deriving DecidableEq, Inhabited, Repr

namespace Binary64

def value (x : Binary64) : BinaryValue := BinaryFormat.binary64.decode x.bits.toNat

def ofRat (negative : Bool) (num den : Nat) : Binary64 :=
  ⟨(BinaryFormat.binary64.round negative num den).toUInt64⟩

def ofScaled (negative : Bool) (m : Nat) (q : Int) : Binary64 :=
  ⟨(BinaryFormat.binary64.roundScaled negative m q).toUInt64⟩

def zero : Binary64 := ⟨0⟩

def nan : Binary64 := ⟨0x7FF8000000000000⟩

def infinity (negative : Bool) : Binary64 :=
  ⟨(BinaryFormat.binary64.infinity negative).toUInt64⟩

def ofNat (n : Nat) : Binary64 := ofRat false n 1

def ofInt (i : Int) : Binary64 := ofRat (i < 0) i.natAbs 1

def neg (x : Binary64) : Binary64 := ⟨x.bits ^^^ 0x8000000000000000⟩

def isFinite (x : Binary64) : Bool :=
  match x.value with
  | .finite .. => true
  | _ => false

def isInfinite (x : Binary64) : Bool :=
  match x.value with
  | .infinite _ => true
  | _ => false

/-- Numeric equality with zero: both zeros count. -/
def isZero (x : Binary64) : Bool :=
  match x.value with
  | .finite _ m _ => m == 0
  | _ => false

def mul (a b : Binary64) : Binary64 :=
  match a.value, b.value with
  | .finite s m q, .finite t n r => ofScaled (s != t) (m * n) (q + r)
  | .infinite s, .finite t n _ => if n == 0 then nan else infinity (s != t)
  | .finite s m _, .infinite t => if m == 0 then nan else infinity (s != t)
  | .infinite s, .infinite t => infinity (s != t)
  | _, _ => nan

def div (a b : Binary64) : Binary64 :=
  match a.value, b.value with
  | .finite s m q, .finite t n r =>
    if n == 0 then (if m == 0 then nan else infinity (s != t))
    else
      let shift := q - r
      ofRat (s != t) (m * Nat.pow 2 shift.toNat) (n * Nat.pow 2 (-shift).toNat)
  | .infinite s, .finite t _ _ => infinity (s != t)
  | .finite s _ _, .infinite t => if s != t then neg zero else zero
  | _, _ => nan

/-- A finite number as a signed integer times `2 ^ e`, for an exponent `e` at most its own. -/
def scaledAt (negative : Bool) (m : Nat) (q e : Int) : Int :=
  let magnitude : Int := (m * Nat.pow 2 (q - e).toNat : Nat)
  if negative then -magnitude else magnitude

/-- The sum, rounded once. -/
def add (a b : Binary64) : Binary64 :=
  match a.value, b.value with
  | .finite s m q, .finite t n r =>
    let e := min q r
    let z := scaledAt s m q e + scaledAt t n r e
    if z == 0 then (if s && t then neg zero else zero) else ofScaled (z < 0) z.natAbs e
  | .infinite s, .infinite t => if s == t then infinity s else nan
  | .infinite s, .finite .. => infinity s
  | .finite .., .infinite t => infinity t
  | _, _ => nan

/-- Numeric order; a NaN is below nothing and nothing is below it. -/
def lt (a b : Binary64) : Bool :=
  match a.value, b.value with
  | .finite s m q, .finite t n r =>
    let e := min q r
    decide (scaledAt s m q e < scaledAt t n r e)
  | .infinite s, .infinite t => s && !t
  | .infinite s, .finite .. => s
  | .finite .., .infinite t => !t
  | _, _ => false

/-- The nearest single precision number; too large a magnitude becomes an infinity. -/
def toBinary32 (x : Binary64) : Binary32 :=
  match x.value with
  | .finite s m q => ⟨(BinaryFormat.binary32.roundScaled s m q).toUInt32⟩
  | .infinite s => ⟨(BinaryFormat.binary32.infinity s).toUInt32⟩
  | .nan => ⟨0x7FC00000⟩

/-- Rounds half away from zero and saturates to the signed 64-bit range; NaN gives 0. -/
def toInt64Round (x : Binary64) : Int :=
  let clamp (i : Int) : Int := max (-(Int.pow 2 63)) (min (Int.pow 2 63 - 1) i)
  match x.value with
  | .finite s m q =>
    let magnitude : Nat :=
      if 0 ≤ q then m * Nat.pow 2 q.toNat
      else (2 * m + Nat.pow 2 (-q).toNat) / Nat.pow 2 ((-q).toNat + 1)
    clamp (if s then -(magnitude : Int) else magnitude)
  | .infinite s => if s then -(Int.pow 2 63) else Int.pow 2 63 - 1
  | .nan => 0

end Binary64

namespace Binary32

def value (x : Binary32) : BinaryValue := BinaryFormat.binary32.decode x.bits.toNat

def zero : Binary32 := ⟨0⟩

/-- The same number in double precision; every single precision value has one. -/
def toBinary64 (x : Binary32) : Binary64 :=
  match x.value with
  | .finite s m q => Binary64.ofScaled s m q
  | .infinite s => Binary64.infinity s
  | .nan => Binary64.nan

def isFinite (x : Binary32) : Bool :=
  match x.value with
  | .finite .. => true
  | _ => false

end Binary32

end SessionSquash
