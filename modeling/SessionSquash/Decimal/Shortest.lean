import SessionSquash.Binary.Format

namespace SessionSquash

namespace Decimal

/-- Compares `a * 10^k` with `b * 2^e`. -/
def compareScaled (a : Nat) (k : Int) (b : Nat) (e : Int) : Ordering :=
  compare (a * Nat.pow 10 k.toNat * Nat.pow 2 (-e).toNat) (b * Nat.pow 2 e.toNat * Nat.pow 10 (-k).toNat)

/-- `⌊b * 2^e / 10^k⌋`. -/
def floorScaled (b : Nat) (e k : Int) : Nat :=
  (b * Nat.pow 2 e.toNat * Nat.pow 10 (-k).toNat) / (Nat.pow 2 (-e).toNat * Nat.pow 10 k.toNat)

/-- `⌊log₁₀ (b * 2^e)⌋` for positive `b`, from an estimate through `log₂` and a few
corrections. -/
def floorLog10 (b : Nat) (e : Int) : Int :=
  let estimate : Int := ((b.log2 : Int) + e) * 1233 / 4096
  let rec up : Nat → Int → Int
    | 0, k => k
    | fuel + 1, k => if compareScaled 1 (k + 1) b e != .gt then up fuel (k + 1) else k
  let rec down : Nat → Int → Int
    | 0, k => k
    | fuel + 1, k => if compareScaled 1 k b e == .gt then down fuel (k - 1) else k
  up 4 (down 4 estimate)

/-- Drops the trailing zeros of `d * 10^k`, raising `k` to match. -/
def trimZeros : Nat → Nat → Int → Nat × Int
  | 0, d, k => (d, k)
  | fuel + 1, d, k => if d != 0 && d % 10 == 0 then trimZeros fuel (d / 10) (k + 1) else (d, k)

end Decimal

namespace BinaryFormat

/-- The most significant digits a shortest decimal of this format can need. -/
def maxDigits (f : BinaryFormat) : Nat := f.precision * 3 / 10 + 2

/-- The shortest decimal `d * 10^k` that rounds to the positive value `m * 2^q` of this
format, the nearest of those when several have that length, without trailing zeros. -/
def shortest (f : BinaryFormat) (m : Nat) (q : Int) : Nat × Int :=
  let e := q - 2
  let v := 4 * m
  let hi := v + 2
  let lo := v - (if m == Nat.pow 2 f.fractionBits && q > f.minQuantum then 1 else 2)
  let inclusive := m % 2 == 0
  let top := Decimal.floorLog10 v e
  let atLeast (d : Nat) (k : Int) : Bool :=
    match Decimal.compareScaled d k lo e with
    | .gt => true
    | .eq => inclusive
    | .lt => false
  let atMost (d : Nat) (k : Int) : Bool :=
    match Decimal.compareScaled d k hi e with
    | .lt => true
    | .eq => inclusive
    | .gt => false
  let pick (digits : Nat) : Option (Nat × Int) :=
    let k := top + 1 - digits
    let below := Decimal.floorScaled v e k
    if Decimal.compareScaled below k v e == .eq then some (below, k)
    else
      let above := below + 1
      match atLeast below k, atMost above k with
      | true, true =>
        match Decimal.compareScaled (2 * below + 1) k (2 * v) e with
        | .gt => some (below, k)
        | .lt => some (above, k)
        | .eq => some (if below % 2 == 0 then below else above, k)
      | true, false => some (below, k)
      | false, true => some (above, k)
      | false, false => none
  let rec search : Nat → Nat → Nat × Int
    | 0, digits => (Decimal.floorScaled v e (top + 1 - digits), top + 1 - digits)
    | fuel + 1, digits =>
      match pick digits with
      | some found => found
      | none => search fuel (digits + 1)
  let (d, k) := search f.maxDigits 1
  Decimal.trimZeros (f.maxDigits + 2) d k

end BinaryFormat

end SessionSquash
