namespace SessionSquash

namespace Text

/-- Why a text is not a signed 64-bit integer. -/
inductive IntegerError where
  | empty
  | invalidDigit
  | tooLarge
  | tooSmall
deriving DecidableEq, Inhabited

def IntegerError.message : IntegerError → String
  | .empty => "cannot parse integer from empty string"
  | .invalidDigit => "invalid digit found in string"
  | .tooLarge => "number too large to fit in target type"
  | .tooSmall => "number too small to fit in target type"

/-- Accumulates digits into a magnitude no larger than `limit`. -/
def accumulateDigits (limit : Nat) (overflow : IntegerError) :
    Nat → List Char → Except IntegerError Nat
  | n, [] => pure n
  | n, d :: ds =>
    if !d.isDigit then throw .invalidDigit
    else
      let next := n * 10 + (d.toNat - '0'.toNat)
      if next > limit then throw overflow else accumulateDigits limit overflow next ds

/-- A signed 64-bit integer: an optional sign and at least one ASCII digit. -/
def readInt64 (s : String) : Except IntegerError Int64 :=
  match s.toList with
  | [] => throw .empty
  | ['+'] | ['-'] => throw .invalidDigit
  | '-' :: ds => do
    let n ← accumulateDigits (Nat.pow 2 63) .tooSmall 0 ds
    pure (Int64.ofInt (-(n : Int)))
  | '+' :: ds => do
    let n ← accumulateDigits (Nat.pow 2 63 - 1) .tooLarge 0 ds
    pure (Int64.ofNat n)
  | ds => do
    let n ← accumulateDigits (Nat.pow 2 63 - 1) .tooLarge 0 ds
    pure (Int64.ofNat n)

end Text

end SessionSquash
