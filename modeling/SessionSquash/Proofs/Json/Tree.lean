import SessionSquash.Json.Decode

namespace SessionSquash

set_option autoImplicit false

namespace Json

mutual

/-- The tree with each floating-point number replaced. -/
def mapFloats (f : Number → Number) : Json → Json
  | .number (.double x) => .number (f (.double x))
  | .number (.single x) => .number (f (.single x))
  | .array items => .array (mapFloatsList f items)
  | .object fields => .object (mapFloatsFields f fields)
  | j => j

def mapFloatsList (f : Number → Number) : List Json → List Json
  | [] => []
  | j :: rest => mapFloats f j :: mapFloatsList f rest

def mapFloatsFields (f : Number → Number) : List (String × Json) → List (String × Json)
  | [] => []
  | (k, j) :: rest => (k, mapFloats f j) :: mapFloatsFields f rest

end

mutual

/-- The floating-point numbers of a tree, in order. -/
def floats : Json → List Number
  | .number (.double x) => [.double x]
  | .number (.single x) => [.single x]
  | .array items => floatsList items
  | .object fields => floatsFields fields
  | _ => []

def floatsList : List Json → List Number
  | [] => []
  | j :: rest => floats j ++ floatsList rest

def floatsFields : List (String × Json) → List Number
  | [] => []
  | (_, j) :: rest => floats j ++ floatsFields rest

end

mutual

/-- The numbers of a tree, in order. -/
def numbers : Json → List Number
  | .number n => [n]
  | .array items => numbersList items
  | .object fields => numbersFields fields
  | _ => []

def numbersList : List Json → List Number
  | [] => []
  | j :: rest => numbers j ++ numbersList rest

def numbersFields : List (String × Json) → List Number
  | [] => []
  | (_, j) :: rest => numbers j ++ numbersFields rest

end

variable (f : Number → Number)

@[simp] theorem mapFloatsList_eq (l : List Json) : mapFloatsList f l = l.map (mapFloats f) := by
  induction l with
  | nil => rfl
  | cons j rest ih => simp [mapFloatsList, ih]

@[simp] theorem mapFloatsFields_eq (l : List (String × Json)) :
    mapFloatsFields f l = l.map fun p => (p.1, mapFloats f p.2) := by
  induction l with
  | nil => rfl
  | cons p rest ih => simp [mapFloatsFields, ih]

@[simp] theorem floatsList_eq (l : List Json) : floatsList l = l.flatMap floats := by
  induction l with
  | nil => rfl
  | cons j rest ih => simp [floatsList, ih]

@[simp] theorem floatsFields_eq (l : List (String × Json)) :
    floatsFields l = l.flatMap fun p => floats p.2 := by
  induction l with
  | nil => rfl
  | cons p rest ih => simp [floatsFields, ih]

@[simp] theorem numbersList_eq (l : List Json) : numbersList l = l.flatMap numbers := by
  induction l with
  | nil => rfl
  | cons j rest ih => simp [numbersList, ih]

@[simp] theorem numbersFields_eq (l : List (String × Json)) :
    numbersFields l = l.flatMap fun p => numbers p.2 := by
  induction l with
  | nil => rfl
  | cons p rest ih => simp [numbersFields, ih]

@[simp] theorem numbers_number (n : Number) : (Json.number n).numbers = [n] := rfl

@[simp] theorem numbers_string (s : String) : (Json.string s).numbers = [] := rfl

@[simp] theorem numbers_bool (b : Bool) : (Json.bool b).numbers = [] := rfl

@[simp] theorem numbers_null : Json.null.numbers = [] := rfl

@[simp] theorem numbers_array (items : List Json) :
    (Json.array items).numbers = items.flatMap numbers := by
  simp [numbers]

@[simp] theorem numbers_object (fields : List (String × Json)) :
    (Json.object fields).numbers = fields.flatMap fun p => p.2.numbers := by
  simp [numbers]

@[simp] theorem toValueList_eq (l : List Json) : toValueList l = l.map toValue := by
  induction l with
  | nil => rfl
  | cons j rest ih => simp [toValueList, ih]

@[simp] theorem mapFloats_ofInt (i : Int) : (ofInt i).mapFloats f = ofInt i := by
  unfold ofInt
  split <;> rfl

@[simp] theorem mapFloats_ofNat (n : Nat) : (ofNat n).mapFloats f = ofNat n := rfl

@[simp] theorem mapFloats_ofDouble (x : Binary64) :
    (ofDouble x).mapFloats f = .number (f (.double x)) := rfl

@[simp] theorem mapFloats_ofSingle (x : Binary32) :
    (ofSingle x).mapFloats f = .number (f (.single x)) := rfl

@[simp] theorem mapFloats_string (s : String) : (Json.string s).mapFloats f = .string s := rfl

@[simp] theorem mapFloats_bool (b : Bool) : (Json.bool b).mapFloats f = .bool b := rfl

@[simp] theorem mapFloats_null : Json.null.mapFloats f = .null := rfl

@[simp] theorem mapFloats_array (items : List Json) :
    (Json.array items).mapFloats f = .array (items.map (mapFloats f)) := by
  simp [mapFloats]

@[simp] theorem mapFloats_object (fields : List (String × Json)) :
    (Json.object fields).mapFloats f = .object (fields.map fun p => (p.1, p.2.mapFloats f)) := by
  simp [mapFloats]

@[simp] theorem floats_ofInt (i : Int) : (ofInt i).floats = [] := by
  unfold ofInt
  split <;> rfl

@[simp] theorem floats_ofNat (n : Nat) : (ofNat n).floats = [] := rfl

@[simp] theorem floats_ofDouble (x : Binary64) : (ofDouble x).floats = [.double x] := rfl

@[simp] theorem floats_ofSingle (x : Binary32) : (ofSingle x).floats = [.single x] := rfl

@[simp] theorem floats_string (s : String) : (Json.string s).floats = [] := rfl

@[simp] theorem floats_bool (b : Bool) : (Json.bool b).floats = [] := rfl

@[simp] theorem floats_null : Json.null.floats = [] := rfl

@[simp] theorem floats_array (items : List Json) :
    (Json.array items).floats = items.flatMap floats := by
  simp [floats]

@[simp] theorem floats_object (fields : List (String × Json)) :
    (Json.object fields).floats = fields.flatMap fun p => p.2.floats := by
  simp [floats]

@[simp] theorem toValue_ofInt (i : Int) : (ofInt i).toValue = ofInt i := by
  unfold ofInt
  split <;> rfl

@[simp] theorem toValue_ofNat (n : Nat) : (ofNat n).toValue = ofNat n := rfl

@[simp] theorem toValue_string (s : String) : (Json.string s).toValue = .string s := rfl

@[simp] theorem toValue_bool (b : Bool) : (Json.bool b).toValue = .bool b := rfl

@[simp] theorem toValue_null : Json.null.toValue = .null := rfl

@[simp] theorem toValue_array (items : List Json) :
    (Json.array items).toValue = .array (items.map toValue) := by
  simp [toValue]

@[simp] theorem toValue_object (fields : List (String × Json)) :
    (Json.object fields).toValue = .object (toValueFields fields) := by
  simp [toValue]

theorem toValueFields_nil : toValueFields [] = [] := rfl

theorem toValueFields_cons (k : String) (j : Json) (rest : List (String × Json)) :
    toValueFields ((k, j) :: rest) = insertAbsent k j.toValue (toValueFields rest) := rfl

end Json

/-- A floating-point number that, changed by `f` and taken to its value form, reads back as
itself through its field's decoder. -/
def Number.KeptBy (f : Number → Number) : Number → Prop
  | .double x => ∀ o, Decoder.double o (Json.number (f (.double x))).toValue = .ok x
  | .single x => ∀ o, Decoder.single o (Json.number (f (.single x))).toValue = .ok x
  | _ => True

/-- Every floating-point number of the tree survives `f`. -/
def Json.FloatsKept (f : Number → Number) (j : Json) : Prop := ∀ n ∈ j.floats, n.KeptBy f

namespace Json

variable {f : Number → Number}

theorem floatsKept_of_floats_eq_nil {j : Json} (h : j.floats = []) : j.FloatsKept f := by
  simp [FloatsKept, h]

@[simp] theorem floatsKept_object (fields : List (String × Json)) :
    (Json.object fields).FloatsKept f ↔ ∀ p ∈ fields, p.2.FloatsKept f := by
  simp only [FloatsKept, floats_object, List.mem_flatMap]
  exact ⟨fun h p hp n hn => h n ⟨p, hp, hn⟩, fun h n ⟨p, hp, hn⟩ => h p hp n hn⟩

@[simp] theorem floatsKept_array (items : List Json) :
    (Json.array items).FloatsKept f ↔ ∀ j ∈ items, j.FloatsKept f := by
  simp only [FloatsKept, floats_array, List.mem_flatMap]
  exact ⟨fun h j hj n hn => h n ⟨j, hj, hn⟩, fun h n ⟨j, hj, hn⟩ => h j hj n hn⟩

@[simp] theorem floatsKept_ofDouble (x : Binary64) :
    (ofDouble x).FloatsKept f ↔ (Number.double x).KeptBy f := by
  simp [FloatsKept]

@[simp] theorem floatsKept_ofSingle (x : Binary32) :
    (ofSingle x).FloatsKept f ↔ (Number.single x).KeptBy f := by
  simp [FloatsKept]

@[simp] theorem floatsKept_ofInt (i : Int) : (ofInt i).FloatsKept f :=
  floatsKept_of_floats_eq_nil (floats_ofInt i)

@[simp] theorem floatsKept_ofNat (n : Nat) : (ofNat n).FloatsKept f :=
  floatsKept_of_floats_eq_nil (floats_ofNat n)

@[simp] theorem floatsKept_string (s : String) : (Json.string s).FloatsKept f :=
  floatsKept_of_floats_eq_nil (floats_string s)

@[simp] theorem floatsKept_bool (b : Bool) : (Json.bool b).FloatsKept f :=
  floatsKept_of_floats_eq_nil (floats_bool b)

@[simp] theorem floatsKept_null : Json.null.FloatsKept f :=
  floatsKept_of_floats_eq_nil floats_null

@[simp] theorem floatsKept_ofBytes (l : List UInt8) : (ofBytes l).FloatsKept f := by
  simp [ofBytes]

end Json

end SessionSquash
