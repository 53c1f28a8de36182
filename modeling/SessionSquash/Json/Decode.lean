import SessionSquash.Json.Write
import SessionSquash.Text.Quoted

namespace SessionSquash

/-- What a JSON value turned out to be, as an error names it. -/
inductive Unexpected where
  | bool (b : Bool)
  | unsigned (n : Nat)
  | signed (i : Int)
  | float (x : Binary64)
  | str (s : String)
  | unit
  | seq
  | map

def Unexpected.describe : Unexpected → String
  | .bool b => s!"boolean `{b}`"
  | .unsigned n => s!"integer `{n}`"
  | .signed i => s!"integer `{i}`"
  | .float x => s!"floating point `{x.render}`"
  | .str s => "string " ++ Text.quote s
  | .unit => "null"
  | .seq => "sequence"
  | .map => "map"

def Json.unexpected : Json → Unexpected
  | .null => .unit
  | .bool b => .bool b
  | .number (.nat n) => .unsigned n
  | .number (.negInt i) => .signed i
  | .number (.double x) => .float x
  | .number (.single x) => .float x.toBinary64
  | .string s => .str s
  | .array _ => .seq
  | .object _ => .map

/-- Why a JSON tree does not fit a record's schema. -/
inductive SchemaError where
  | invalidType (found : Unexpected) (expected : String)
  | invalidValue (found : Unexpected) (expected : String)
  | invalidLength (length : Nat) (expected : String)
  | missingField (name : String)
  | duplicateField (name : String)
  | unknownVariant (name : String) (variants : List String)

def SchemaError.message : SchemaError → String
  | .invalidType found expected => s!"invalid type: {found.describe}, expected {expected}"
  | .invalidValue found expected => s!"invalid value: {found.describe}, expected {expected}"
  | .invalidLength n expected => s!"invalid length {n}, expected {expected}"
  | .missingField name => s!"missing field `{name}`"
  | .duplicateField name => s!"duplicate field `{name}`"
  | .unknownVariant name variants =>
    let quoted := variants.map (fun v => s!"`{v}`")
    match quoted with
    | [] => s!"unknown variant `{name}`, there are no variants"
    | [a] => s!"unknown variant `{name}`, expected {a}"
    | [a, b] => s!"unknown variant `{name}`, expected {a} or {b}"
    | _ => s!"unknown variant `{name}`, expected one of " ++ ", ".intercalate quoted

/-- How a tree being decoded was obtained, which decides how some faults are reported. -/
structure Origin where
  /-- Read straight from text, so that a field named twice is an error. -/
  fromText : Bool := false
  /-- Gathered as the members of a tagged variant, so that a sequence with items left over
  reports how many of them were read. -/
  buffered : Bool := false
deriving Inhabited

namespace Origin

/-- A parsed value. -/
def value : Origin := {}

/-- Text read straight into a record. -/
def text : Origin := { fromText := true }

/-- The error for a sequence of `total` items of which a reader took only `read`. -/
def leftOver (o : Origin) (total read : Nat) : SchemaError :=
  if o.buffered then
    .invalidLength total (if read == 1 then "1 element in sequence" else s!"{read} elements in sequence")
  else .invalidLength total "fewer elements in array"

end Origin

/-- A decoder, told how the tree it reads was obtained. -/
def Decoder (α : Type) : Type := Origin → Json → Except SchemaError α

namespace Decoder

def run {α : Type} (d : Decoder α) (origin : Origin) (j : Json) : Except SchemaError α := d origin j

/-- An integer within `[lo, hi]`; `expected` names the integer type. -/
def integer (expected : String) (lo hi : Int) : Decoder Int := fun _ j =>
  match j with
  | .number (.nat n) => if (n : Int) ≤ hi then .ok n else .error (.invalidValue (.unsigned n) expected)
  | .number (.negInt i) => if lo ≤ i then .ok i else .error (.invalidValue (.signed i) expected)
  | j => .error (.invalidType j.unexpected expected)

def int8 : Decoder Int8 := fun s j => (integer "i8" (-128) 127 s j).map Int8.ofInt

def uint8 : Decoder UInt8 := fun s j => (integer "u8" 0 255 s j).map (·.toNat.toUInt8)

def int16 : Decoder Int16 := fun s j => (integer "i16" (-32768) 32767 s j).map Int16.ofInt

def int32 : Decoder Int32 :=
  fun s j => (integer "i32" (-(Int.pow 2 31)) (Int.pow 2 31 - 1) s j).map Int32.ofInt

def uint32 : Decoder UInt32 := fun s j => (integer "u32" 0 (Int.pow 2 32 - 1) s j).map (·.toNat.toUInt32)

def int64 : Decoder Int64 :=
  fun s j => (integer "i64" (-(Int.pow 2 63)) (Int.pow 2 63 - 1) s j).map Int64.ofInt

def double : Decoder Binary64 := fun _ j =>
  match j with
  | .number (.nat n) => .ok (Binary64.ofNat n)
  | .number (.negInt i) => .ok (Binary64.ofInt i)
  | .number (.double x) => .ok x
  | .number (.single x) => .ok x.toBinary64
  | j => .error (.invalidType j.unexpected "f64")

/-- A single precision field: an integer is rounded straight to single precision, a
double is narrowed. -/
def single : Decoder Binary32 := fun _ j =>
  match j with
  | .number (.nat n) => .ok ⟨(BinaryFormat.binary32.round false n 1).toUInt32⟩
  | .number (.negInt i) => .ok ⟨(BinaryFormat.binary32.round true i.natAbs 1).toUInt32⟩
  | .number (.double x) => .ok x.toBinary32
  | .number (.single x) => .ok x
  | j => .error (.invalidType j.unexpected "f32")

def bool : Decoder Bool := fun _ j =>
  match j with
  | .bool b => .ok b
  | j => .error (.invalidType j.unexpected "a boolean")

def string : Decoder String := fun _ j =>
  match j with
  | .string s => .ok s
  | j => .error (.invalidType j.unexpected "a string")

def option {α : Type} (d : Decoder α) : Decoder (Option α) := fun s j =>
  match j with
  | .null => .ok none
  | j => (d s j).map some

def list {α : Type} (d : Decoder α) : Decoder (List α) := fun s j =>
  match j with
  | .array items => items.mapM (d s)
  | j => .error (.invalidType j.unexpected "a sequence")

def bytes : Decoder (List UInt8) := list uint8

/-- A fixed-size array of exactly `n` items: the first `n` items are decoded, then a longer array
is refused for its extra items and a shorter one for its length. -/
def exactly {α : Type} (n : Nat) (d : Decoder α) : Decoder (Vector α n) := fun s j =>
  let expected := s!"an array of length {n}"
  match j with
  | .array items => do
    let decoded ← (items.take n).mapM (d s)
    if items.length > n then throw (s.leftOver items.length n)
    if h : decoded.length = n then return ⟨decoded.toArray, by simpa using h⟩
    throw (.invalidLength items.length expected)
  | j => .error (.invalidType j.unexpected expected)

def triple {α : Type} (d : Decoder α) : Decoder (α × α × α) := fun s j =>
  (exactly 3 d s j).map fun xs => (xs[0], xs[1], xs[2])

/-- A unit variant by name, or an object with that single key holding `null`. -/
def variant {α : Type} (choices : List (String × α)) : Decoder α := fun _ j =>
  let names := choices.map (·.1)
  let byName (name : String) : Except SchemaError α :=
    match choices.find? (·.1 == name) with
    | some (_, a) => .ok a
    | none => .error (.unknownVariant name names)
  match j with
  | .string name => byName name
  | .object [(name, content)] => do
    let a ← byName name
    match content with
    | .null => pure a
    | other => throw (.invalidType other.unexpected "unit")
  | .object _ => .error (.invalidValue .map "map with a single key")
  | j => .error (.invalidType j.unexpected "string or map")

end Decoder

/-- Where the fields of a record come from. -/
inductive FieldSource where
  | members (fields : List (String × Json))
  | items (items : List Json)

structure FieldState where
  source : FieldSource
  origin : Origin
  /-- What the record is called in a length error. -/
  expecting : String
  /-- Declaration index of the next field. -/
  next : Nat
  /-- The error that wins so far, with its rank: members by position, then missing ones. -/
  failure : Option (Nat × SchemaError)

/-- Reading a record's fields in declaration order. -/
abbrev Fields := StateM FieldState

namespace Fields

def note (rank : Nat) (e : SchemaError) : Fields Unit :=
  modify fun st =>
    match st.failure with
    | some (r, _) => if r ≤ rank then st else { st with failure := some (rank, e) }
    | none => { st with failure := some (rank, e) }

/-- Positions at which a name occurs among the members. -/
def positions (fields : List (String × Json)) (name : String) : List Nat :=
  ((List.range fields.length).zip fields).filterMap fun (i, k, _) => if k == name then some i else none

def decodeAt {α : Type} [Inhabited α] (rank : Nat) (d : Decoder α) (j : Json) : Fields α := do
  match d (← get).origin j with
  | .ok a => pure a
  | .error e => note rank e; pure default

/-- The next field; `absent` says what an absent field is, or fails with the error given. -/
def field {α : Type} [Inhabited α] (name : String) (d : Decoder α)
    (absent : Except (Nat → SchemaError) α) : Fields α := do
  let st ← get
  let index := st.next
  set { st with next := index + 1 }
  match st.source with
  | .members fields =>
    match positions fields name with
    | [] =>
      match absent with
      | .ok a => pure a
      | .error _ => note (fields.length + index) (.missingField name); pure default
    | first :: rest =>
      if st.origin.fromText then
        match rest with
        | second :: _ => note second (.duplicateField name)
        | [] => pure ()
      decodeAt first d ((fields[first]?).map (·.2) |>.getD .null)
  | .items items =>
    match items[index]? with
    | some j => decodeAt index d j
    | none =>
      match absent with
      | .ok a => pure a
      | .error mk => note index (mk index); pure default

/-- A field without a default. -/
def required {α : Type} [Inhabited α] (name : String) (d : Decoder α) : Fields α := do
  let expecting := (← get).expecting
  field name d (.error fun i => .invalidLength i expecting)

/-- A field that takes `value` when absent. -/
def withDefault {α : Type} [Inhabited α] (name : String) (d : Decoder α) (value : α) :
    Fields α :=
  field name d (.ok value)

/-- An optional field: absent from an object it is `none`, from an array an error. -/
def optional {α : Type} (name : String) (d : Decoder α) : Fields (Option α) := do
  let st ← get
  match st.source with
  | .members _ => field name (Decoder.option d) (.ok none)
  | .items _ => field name (Decoder.option d) (.error fun i => .invalidLength i st.expecting)

end Fields

namespace Fields

def runOn {α : Type} (fields : Fields α) (source : FieldSource) (origin : Origin)
    (expecting : String) : Except SchemaError α :=
  let (a, st) := fields.run ⟨source, origin, expecting, 0, none⟩
  match st.failure with
  | some (_, e) => .error e
  | none => .ok a

/-- Reads fields from named members only, as a variant's fields are read. -/
def onMembers {α : Type} (fields : Fields α) (origin : Origin) (members : List (String × Json)) :
    Except SchemaError α :=
  fields.runOn (.members members) origin ""

end Fields

/-- A record read from an object or an array; `fieldCount` is how many fields it declares. -/
def Decoder.record {α : Type} (name : String) (fieldCount : Nat) (fields : Fields α) :
    Decoder α := fun origin j =>
  let expecting := s!"struct {name} with {fieldCount} elements"
  match j with
  | .object members => fields.runOn (.members members) origin expecting
  | .array items => do
    let a ← fields.runOn (.items items) origin expecting
    if items.length > fieldCount then throw (origin.leftOver items.length fieldCount)
    return a
  | j => .error (.invalidType j.unexpected s!"struct {name}")

namespace Decoder

/-- A field read on its own from members: the first occurrence decides, a second one is an
error when reading straight from text, and an absent one is missing. -/
def member {α : Type} (d : Decoder α) (origin : Origin) (members : List (String × Json))
    (name : String) : Except SchemaError α :=
  match Fields.positions members name with
  | [] => .error (.missingField name)
  | first :: rest => do
    let a ← d origin ((members[first]?).map (·.2) |>.getD .null)
    if origin.fromText then
      match rest with
      | _ :: _ => throw (.duplicateField name)
      | [] => pure ()
    return a

/-- Which variant a tag names: its name, or its position in the list. -/
def variantIndex (names : List String) : Decoder Nat := fun _ j =>
  match j with
  | .string s =>
    match names.idxOf? s with
    | some i => .ok i
    | none => .error (.unknownVariant s names)
  | .number (.nat n) =>
    if n < names.length then .ok n
    else .error (.invalidValue (.unsigned n) s!"variant index 0 <= i < {names.length}")
  | j => .error (.invalidType j.unexpected "variant identifier")

/-- A variant chosen by the member named `tag`; the other members are the variant's
fields, read as buffered content. -/
def tagged {α : Type} (tag : String)
    (variants : List (String × (Origin → List (String × Json) → Except SchemaError α)))
    (origin : Origin) (members : List (String × Json)) : Except SchemaError α := do
  let names := variants.map (·.1)
  let index ← member (variantIndex names) origin members tag
  let content := members.filter (·.1 != tag)
  match variants[index]? with
  | some (_, read) => read { origin with buffered := true } content
  | none => throw (.missingField tag)

/-- A variant without fields: whatever else the object holds is ignored. -/
def unitVariant {α : Type} (a : α) : Origin → List (String × Json) → Except SchemaError α :=
  fun _ _ => .ok a

end Decoder

end SessionSquash
