namespace SessionSquash

/-- The shape of a binary interchange format. -/
structure BinaryFormat where
  /-- Significand bits, the implicit leading bit included. -/
  precision : Nat
  /-- Bits of the biased exponent field. -/
  exponentBits : Nat

/-- What a bit pattern stands for: `finite neg m q` is `(-1)^neg * m * 2^q`. -/
inductive BinaryValue where
  | finite (negative : Bool) (significand : Nat) (exponent : Int)
  | infinite (negative : Bool)
  | nan

namespace BinaryFormat

def binary64 : BinaryFormat := ⟨53, 11⟩

def binary32 : BinaryFormat := ⟨24, 8⟩

def fractionBits (f : BinaryFormat) : Nat := f.precision - 1

def bias (f : BinaryFormat) : Nat := Nat.pow 2 (f.exponentBits - 1) - 1

/-- The exponent of the last significand bit of a subnormal value. -/
def minQuantum (f : BinaryFormat) : Int := 1 - (f.bias : Int) - f.fractionBits

def signBit (f : BinaryFormat) : Nat := Nat.pow 2 (f.exponentBits + f.fractionBits)

def decode (f : BinaryFormat) (bits : Nat) : BinaryValue :=
  let negative := bits / f.signBit % 2 == 1
  let biased := bits / Nat.pow 2 f.fractionBits % Nat.pow 2 f.exponentBits
  let fraction := bits % Nat.pow 2 f.fractionBits
  if biased == Nat.pow 2 f.exponentBits - 1 then
    if fraction == 0 then .infinite negative else .nan
  else if biased == 0 then
    .finite negative fraction f.minQuantum
  else
    .finite negative (fraction + Nat.pow 2 f.fractionBits) (biased + f.minQuantum - 1)

def infinity (f : BinaryFormat) (negative : Bool) : Nat :=
  (if negative then f.signBit else 0) + (Nat.pow 2 f.exponentBits - 1) * Nat.pow 2 f.fractionBits

/-- Packs a significand below `2 ^ precision` whose exponent is at least `minQuantum`,
normal when the significand has its leading bit and the exponent is `minQuantum` otherwise. -/
def pack (f : BinaryFormat) (negative : Bool) (m : Nat) (q : Int) : Nat :=
  let sign := if negative then f.signBit else 0
  if Nat.pow 2 f.fractionBits ≤ m then
    sign + (q - f.minQuantum + 1).toNat * Nat.pow 2 f.fractionBits + (m - Nat.pow 2 f.fractionBits)
  else
    sign + m

/-- Division rounded to the nearest integer, a tie going to the even quotient. -/
def roundHalfEven (n d : Nat) : Nat :=
  let q := n / d
  let r := n % d
  if 2 * r > d || (2 * r == d && q % 2 == 1) then q + 1 else q

/-- `⌊log₂ (num / den)⌋` for positive `num` and `den`. -/
def floorLog2 (num den : Nat) : Int :=
  let guess : Int := (num.log2 : Int) - den.log2
  let below :=
    if 0 ≤ guess then num < den * Nat.pow 2 guess.toNat else num * Nat.pow 2 (-guess).toNat < den
  if below then guess - 1 else guess

/-- `num * 2^q / den` rounded half to even, for an exponent of either sign. -/
def scaledRound (num den : Nat) (q : Int) : Nat :=
  if 0 ≤ q then roundHalfEven (num * Nat.pow 2 q.toNat) den
  else roundHalfEven num (den * Nat.pow 2 (-q).toNat)

/-- The bit pattern nearest to `±num / den`. -/
def round (f : BinaryFormat) (negative : Bool) (num den : Nat) : Nat :=
  if num == 0 || den == 0 then
    if negative then f.signBit else 0
  else
    let q := max (floorLog2 num den - f.fractionBits) f.minQuantum
    let m := scaledRound num den (-q)
    let (m, q) := if m == Nat.pow 2 f.precision then (m / 2, q + 1) else (m, q)
    if q + f.fractionBits > f.bias then f.infinity negative
    else f.pack negative m q

/-- The bit pattern nearest to `±m * 2^q`. -/
def roundScaled (f : BinaryFormat) (negative : Bool) (m : Nat) (q : Int) : Nat :=
  if 0 ≤ q then f.round negative (m * Nat.pow 2 q.toNat) 1
  else f.round negative m (Nat.pow 2 (-q).toNat)

end BinaryFormat

end SessionSquash
