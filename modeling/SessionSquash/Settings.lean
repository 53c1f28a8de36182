import SessionSquash.Squash.Config
import SessionSquash.Toml.Table

namespace SessionSquash

/-- Output options: whether a squash is replayed and checked. -/
structure OutputSettings where
  verify : Bool := true
deriving Inhabited, DecidableEq

structure Settings where
  squash : SquashConfig := {}
  output : OutputSettings := {}
deriving Inhabited, DecidableEq

namespace Settings

def toJson (s : Settings) : Json :=
  .object [("squash", s.squash.toJson), ("output", .object [("verify", .bool s.output.verify)])]

end Settings

namespace Toml

def floatText (x : Binary64) : String :=
  match x.value with
  | .finite s m q => (FloatStyle.mk .binary64 (-400) 400).render s m q
  | .infinite s => if s then "-inf" else "inf"
  | .nan => "NaN"

/-- How a value is described when it has the wrong type. -/
def Value.unexpected : Value → String
  | .string s => "string " ++ Text.quote s
  | .integer i => "integer `" ++ toString i ++ "`"
  | .float x => "floating point `" ++ floatText x ++ "`"
  | .boolean b => "boolean `" ++ toString b ++ "`"
  | .datetime _ => "map"
  | .array _ => "sequence"
  | .inlineTable _ => "map"

def Node.unexpected : Node → String
  | .value v _ => v.unexpected
  | .table .. => "map"
  | .tables _ => "sequence"

/-- Where an error about a node points: its value or header (the first header of an array of
tables), else its key. -/
def Node.spanOr (keySpan : Span) : Node → Span
  | .value _ s => s
  | .table _ _ (some h) _ => h
  | .tables ((some h, _) :: _) => h
  | _ => keySpan

def invalidType (unexpected expected : String) : String :=
  "invalid type: " ++ unexpected ++ ", expected " ++ expected

/-- A field's contents: a node and the span to blame. -/
structure Slot where
  node : Node
  span : Span

def Slot.ofEntry (k : Key) (node : Node) : Slot := ⟨node, node.spanOr k.span⟩

def Slot.ofValue (v : Value) (span : Span) : Slot := ⟨.value v span, span⟩

/-- How a struct's fields arrive: by name, or by position. -/
inductive Fields where
  | named (entries : List (String × Slot))
  | positional (items : List Slot)

def readBool (s : Slot) : Except Error Bool :=
  match s.node with
  | .value (.boolean b) _ => .ok b
  | node => .error { message := invalidType node.unexpected "a boolean", span := some s.span }

/-- A slot read as a struct called `name`. -/
def readFields (name : String) (s : Slot) : Except Error Fields :=
  match s.node with
  | .table _ _ _ entries => .ok (.named (entries.map fun (k, n) => (k.name, Slot.ofEntry k n)))
  | .value (.inlineTable es) _ =>
    .ok (.named (es.map fun (n, _, v, span) => (n, Slot.ofValue v span)))
  | .value (.array items) _ => .ok (.positional (items.map fun (v, span) => Slot.ofValue v span))
  | .value (.datetime _) _ => .ok (.named [])
  | .tables items =>
    .ok (.positional (items.map fun (hdr, es) =>
      ⟨.table false false hdr es, hdr.getD s.span⟩))
  | node => .error { message := invalidType node.unexpected ("struct " ++ name), span := some s.span }

/-- Fills boolean fields from defaults and what was given; unknown names are skipped. -/
def readFlags (names : List String) (defaults : List Bool) : Fields → Except Error (List Bool)
  | .named entries =>
    entries.foldlM (fun (acc : List Bool) (n, slot) =>
      match names.idxOf? n with
      | some i => do
        let b ← readBool slot
        pure (acc.set i b)
      | none => pure acc) defaults
  | .positional items =>
    defaults.zipIdx.mapM fun (d, i) =>
      match items[i]? with
      | some s => readBool s
      | none => pure d

end Toml

open Toml in
def SquashConfig.ofToml (s : Slot) : Except Toml.Error SquashConfig := do
  let fields ← readFields "SquashConfig" s
  let flags ← readFlags ["drop_particles", "drop_transaction_confirms"] [true, true] fields
  pure { dropParticles := flags.getD 0 true, dropTransactionConfirms := flags.getD 1 true }

open Toml in
def OutputSettings.ofToml (s : Slot) : Except Toml.Error OutputSettings := do
  let fields ← readFields "OutputConfig" s
  let flags ← readFlags ["verify"] [true] fields
  pure { verify := flags.getD 0 true }

namespace Settings

/-- The settings a document's root table gives. -/
def ofToml (root : Toml.Table) : Except Toml.Error Settings :=
  root.entries.foldlM (fun (s : Settings) (k, node) =>
    match k.name with
    | "squash" => do pure { s with squash := ← SquashConfig.ofToml (Toml.Slot.ofEntry k node) }
    | "output" => do pure { s with output := ← OutputSettings.ofToml (Toml.Slot.ofEntry k node) }
    | _ => pure s) {}

/-- Reads settings from the text of a settings file. -/
def parse (text : String) : Except Toml.Error Settings := do
  ofToml (← Toml.read text)

end Settings

end SessionSquash
