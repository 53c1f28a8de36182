import SessionSquash.Binary.Float

namespace SessionSquash

/-- A JSON number together with the kind it was read or built as. -/
inductive Number where
  /-- A nonnegative integer, below `2^64`. -/
  | nat (n : Nat)
  /-- A negative integer, at least `-2^63`. -/
  | negInt (n : Int)
  | double (x : Binary64)
  /-- A single precision field; written with the digits that identify it in that precision. -/
  | single (x : Binary32)
deriving DecidableEq, Inhabited

inductive Json where
  | null
  | bool (b : Bool)
  | number (n : Number)
  | string (s : String)
  | array (items : List Json)
  | object (fields : List (String × Json))
deriving Inhabited

namespace Json

def ofNat (n : Nat) : Json := .number (.nat n)

/-- An integer, in the kind its sign calls for. -/
def ofInt (i : Int) : Json :=
  if 0 ≤ i then .number (.nat i.toNat) else .number (.negInt i)

def ofDouble (x : Binary64) : Json := .number (.double x)

def ofSingle (x : Binary32) : Json := .number (.single x)

def ofBytes (bytes : List UInt8) : Json := .array (bytes.map fun b => ofNat b.toNat)

def ofOption {α : Type} (f : α → Json) : Option α → Json
  | none => .null
  | some a => f a

def ofTriple {α : Type} (f : α → Json) : α × α × α → Json
  | (a, b, c) => .array [f a, f b, f c]

/-- Adds a field unless the key is already present, keeping keys sorted. -/
def insertAbsent (key : String) (value : Json) : List (String × Json) → List (String × Json)
  | [] => [(key, value)]
  | (k, v) :: rest =>
    if key < k then (key, value) :: (k, v) :: rest
    else if key == k then (k, v) :: rest
    else (k, v) :: insertAbsent key value rest

mutual

/-- The value form: sorted keys, the last of duplicate keys kept, numbers in double
precision, and no non-finite number (such a number stands as `null`). -/
def toValue : Json → Json
  | .number (.single x) => if x.isFinite then .number (.double x.toBinary64) else .null
  | .number (.double x) => if x.isFinite then .number (.double x) else .null
  | .array items => .array (toValueList items)
  | .object fields => .object (toValueFields fields)
  | j => j

def toValueList : List Json → List Json
  | [] => []
  | j :: rest => toValue j :: toValueList rest

def toValueFields : List (String × Json) → List (String × Json)
  | [] => []
  | (k, j) :: rest => insertAbsent k (toValue j) (toValueFields rest)

end

/-- The first field of that name. -/
def field? (fields : List (String × Json)) (key : String) : Option Json :=
  (fields.find? (·.1 == key)).map (·.2)

end Json

end SessionSquash
