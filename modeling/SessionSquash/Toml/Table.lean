import SessionSquash.Toml.Grammar

namespace SessionSquash.Toml

open SessionSquash.Toml.Reader

/-- A table under construction. -/
structure Table where
  implicit : Bool := false
  dotted : Bool := false
  header : Option Span := none
  entries : List (Key × Node) := []
deriving Inhabited

namespace Table

def toNode (t : Table) : Node := .table t.implicit t.dotted t.header t.entries

def find? (t : Table) (name : String) : Option Node :=
  (t.entries.find? (·.1.name == name)).map (·.2)

def replace (t : Table) (name : String) (node : Node) : Table :=
  { t with entries := t.entries.map fun e => if e.1.name == name then (e.1, node) else e }

def remove (t : Table) (name : String) : Table :=
  { t with entries := t.entries.filter (·.1.name != name) }

def push (t : Table) (k : Key) (node : Node) : Table := { t with entries := t.entries ++ [(k, node)] }

end Table

def duplicateKey (key : String) : String := "duplicate key `" ++ key ++ "`"

/-- A key set twice in a table named by its path. -/
def duplicateKeyIn (key : String) (table : List String) : String :=
  if table.isEmpty then duplicateKey key ++ " in document root"
  else duplicateKey key ++ " in table `" ++ ".".intercalate table ++ "`"

def extendWrongType (path : List String) (actual : String) : String :=
  "dotted key `" ++ ".".intercalate path ++ "` attempted to extend non-table type (" ++ actual ++ ")"

/-- The duplicate-key message for the last key of a header's path. -/
def duplicateHeader (path : List Key) : String :=
  match path.getLast? with
  | some k => duplicateKeyIn k.raw ((path.dropLast).map (·.name))
  | none => duplicateKey ""

/-- Applies `f` to the table at `path` below `t`, creating implicit tables on the way.
Tables made for a dotted key are marked dotted, and may not reopen a table that has a header. -/
def descend {β : Type} (dotted : Bool) (f : Table → Except String (Table × β)) :
    List String → Table → List Key → Except String (Table × β)
  | _, t, [] => f t
  | seen, t, k :: rest => do
    let names := seen ++ [k.name]
    match t.find? k.name with
    | none =>
      let (child, r) ← descend dotted f names { implicit := true, dotted } rest
      pure (t.push k child.toNode, r)
    | some (.value v _) => throw (extendWrongType names v.typeName)
    | some (.tables items) =>
      let (hdr, es) := items.getLastD (none, [])
      let (child, r) ← descend dotted f names { header := hdr, entries := es } rest
      pure (t.replace k.name (.tables (items.dropLast ++ [(child.header, child.entries)])), r)
    | some (.table imp dot hdr es) =>
      if dotted && !imp then throw (duplicateKey k.name)
      else
        let (child, r) ← descend dotted f names { implicit := imp, dotted := dot, header := hdr, entries := es } rest
        pure (t.replace k.name child.toNode, r)

/-- Finds the table for a dotted key inside an inline table. Tables written inline are
complete and may not be extended. -/
def descendInline {β : Type} (f : Table → Except String (Table × β)) :
    List String → Table → List Key → Except String (Table × β)
  | _, t, [] => f t
  | seen, t, k :: rest => do
    let names := seen ++ [k.name]
    match t.find? k.name with
    | none =>
      let (child, r) ← descendInline f names { implicit := true, dotted := true } rest
      pure (t.push k child.toNode, r)
    | some (.table imp dot hdr es) =>
      if !imp then throw (duplicateKey k.name)
      else
        let (child, r) ← descendInline f names { implicit := imp, dotted := dot, header := hdr, entries := es } rest
        pure (t.replace k.name child.toNode, r)
    | some (.value (.inlineTable _) _) => throw (duplicateKey k.name)
    | some (.value v _) => throw (extendWrongType names v.typeName)
    | some (.tables _) => throw (duplicateKey k.name)

mutual

/-- An inline table's value, with the key's span standing for tables made by dotted keys. -/
def inlineValue (keySpan : Span) : Node → Value × Span
  | .value v span => (v, span)
  | .table _ _ _ entries => (.inlineTable (inlineEntries entries), keySpan)
  | .tables _ => (.inlineTable [], keySpan)

def inlineEntries : List (Key × Node) → List (String × Span × Value × Span)
  | [] => []
  | (k, node) :: rest =>
    let (v, span) := inlineValue k.span node
    (k.name, k.span, v, span) :: inlineEntries rest

end

/-- Collects an inline table's entries, each a dotted key with its value. -/
def buildInline (pairs : List (List Key × Value × Span)) : Except String Value := do
  let root ← pairs.foldlM (fun (root : Table) (path, v, span) => do
    match path.getLast? with
    | none => pure root
    | some k =>
      let prefixPath := path.dropLast
      let (root, _) ← descendInline (fun t =>
        if t.dotted == prefixPath.isEmpty then throw (duplicateKey k.name)
        else if (t.find? k.name).isSome then throw (duplicateKey k.name)
        else pure (t.push k (.value v span), ())) [] root prefixPath
      pure root) ({ implicit := true } : Table)
  pure (.inlineTable (inlineEntries root.entries))

def inlineTable (item : Reader (Value × Span)) : Reader Value := do
  byte 123
  let start ← here
  let v ← cutErr do
    let pairs ← separated0 (do
      let path ← key
      cutErr do
        expecting (.char '=') (expecting (.char '.') (byte 61))
        ws
        let v ← item
        ws
        pure (path, v)) (byte 44)
    ws
    match buildInline pairs with
    | .ok v => pure v
    | .error msg => failWith false start msg
  expecting (.char '}') (withLabel "inline table" (cutErr (byte 125)))
  pure v

/-- A value that is not a string, array or inline table, by its first byte. -/
def scalar (b : UInt8) (start : Nat) : Reader Value :=
  if b == 43 || b == 45 || isDigit b then
    orElse (do dateTime; pure (.datetime (text (← sliceFrom start))))
      (orElse (Value.float <$> float) (Value.integer <$> integer))
  else if b == 95 then expecting (.description "leading digit") (Value.integer <$> integer)
  else if b == 46 then expecting (.description "leading digit") (Value.float <$> float)
  else if b == 116 then asString (do cutErr (literal "true"); pure (.boolean true))
  else if b == 102 then asString (do cutErr (literal "false"); pure (.boolean false))
  else if b == 105 then asString (do literal "inf"; pure (.float (Binary64.infinity false)))
  else if b == 110 then asString (do literal "nan"; pure (.float Binary64.nan))
  else asString backtrack

/-- The value `body` reads from the byte it starts at, with its span. -/
def spanned (body : Nat → UInt8 → Reader Value) : Reader (Value × Span) := do
  let start ← here
  match ← peek with
  | none => backtrack
  | some b =>
    let v ← body start b
    pure (v, ⟨start, ← here⟩)

/-- A value and its span, where `room` more arrays or inline tables may open; one more
fails at its opening bracket. -/
def value : Nat → Reader (Value × Span)
  | 0 => spanned fun start b =>
    if b == 34 || b == 39 then Value.string <$> string
    else if b == 91 || b == 123 then failWith true start "recursion limit exceeded"
    else scalar b start
  | room + 1 => spanned fun start b =>
    if b == 34 || b == 39 then Value.string <$> string
    else if b == 91 then array (value room)
    else if b == 123 then inlineTable (value room)
    else scalar b start

/-- How many arrays and inline tables may be open at once in one value. -/
def nestingLimit : Nat := 79

/-- The state of reading a document: the root, the table being filled and its path. -/
structure Builder where
  root : Table := {}
  current : Table := {}
  path : List Key := []
  isArray : Bool := false
deriving Inhabited

namespace Builder

/-- Puts the table being filled into the root. -/
def finalize (d : Builder) : Except String Builder := do
  match d.path.getLast? with
  | none => pure { d with root := d.current, current := {} }
  | some k =>
    let cur := d.current
    let (root, _) ← descend false (fun parent =>
      if d.isArray then
        match parent.find? k.name with
        | none => pure (parent.push k (.tables [(cur.header, cur.entries)]), ())
        | some (.tables items) => pure (parent.replace k.name (.tables (items ++ [(cur.header, cur.entries)])), ())
        | some _ => throw (duplicateHeader d.path)
      else
        match parent.find? k.name with
        | none => pure (parent.push k cur.toNode, ())
        | some (.table true _ _ _) => pure (parent.replace k.name cur.toNode, ())
        | some _ => throw (duplicateHeader d.path)) [] d.root d.path.dropLast
    pure { d with root, current := {}, path := [] }

def startTable (d : Builder) (path : List Key) (span : Span) : Except String Builder := do
  let d ← d.finalize
  match path.getLast? with
  | none => pure d
  | some k =>
    let (root, carried) ← descend false (fun parent =>
      match parent.find? k.name with
      | none => pure (parent, [])
      | some (.table true false _ es) => pure (parent.remove k.name, es)
      | some _ => throw (duplicateHeader path)) [] d.root path.dropLast
    pure { d with root, current := { header := some span, entries := carried }, path, isArray := false }

def startArray (d : Builder) (path : List Key) (span : Span) : Except String Builder := do
  let d ← d.finalize
  match path.getLast? with
  | none => pure d
  | some k =>
    let (root, _) ← descend false (fun parent =>
      match parent.find? k.name with
      | none => pure (parent.push k (.tables []), ())
      | some (.tables _) => pure (parent, ())
      | some _ => throw (duplicateHeader path)) [] d.root path.dropLast
    pure { d with root, current := { header := some span }, path, isArray := true }

def setValue (d : Builder) (path : List Key) (v : Value) (span : Span) : Except String Builder := do
  match path.getLast? with
  | none => pure d
  | some k =>
    let prefixPath := path.dropLast
    let (current, _) ← descend true (fun t =>
      if t.dotted == prefixPath.isEmpty then throw (duplicateKey k.name)
      else if (t.find? k.name).isSome then throw (duplicateKeyIn k.name (d.path.map (·.name)))
      else pure (t.push k (.value v span), ())) [] d.current prefixPath
    pure { d with current }

end Builder

/-- A `key = value` line. -/
def keyValue (d : Builder) : Reader Builder := do
  let start ← here
  let path ← key
  let (v, span) ← cutErr do
    expecting (.char '=') (expecting (.char '.') (byte 61))
    ws
    let vs ← value nestingLimit
    expecting (.char '#') (expecting (.char '\n') lineTrailing)
    pure vs
  match d.setValue path v span with
  | .ok d => pure d
  | .error msg => failWith false start msg

/-- A `[table]` or `[[array]]` header line. -/
def header (d : Builder) : Reader Builder := do
  let start ← here
  withLabel "table header" do
    let src ← read
    let isArray := src.extract start (start + 2) == "[[".toUTF8
    if isArray then literal "[[" else byte 91
    let path ← cutErr key
    if isArray then expecting (.literal "]]") (expecting (.char '.') (cutErr (literal "]]")))
    else expecting (.char ']') (expecting (.char '.') (cutErr (byte 93)))
    let span : Span := ⟨start, ← here⟩
    expecting (.char '#') (expecting (.char '\n') (cutErr lineTrailing))
    let next := if isArray then d.startArray path span else d.startTable path span
    match next with
    | .ok d => pure d
    | .error msg => failWith false start msg

def lines : Nat → Builder → Reader Builder
  | 0, d => pure d
  | n + 1, d => do
    match ← peek with
    | none => pure d
    | some b =>
      let step : Reader (Option Builder) :=
        if b == 35 then do cutErr (do comment; lineEnding); pure (some d)
        else if b == 91 then some <$> cutErr (header d)
        else if b == 10 || b == 13 then do return (← opt newline).map fun _ => d
        else some <$> cutErr (keyValue d)
      match ← step with
      | some d =>
        ws
        lines n d
      | none => pure d

def document : Reader Table := do
  discard (opt (literal "\uFEFF"))
  ws
  let d ← lines (← fuel) {}
  eof
  match d.finalize with
  | .ok d => pure d.root
  | .error msg => failWith false (← here) msg

/-- Whether a byte continues a character begun before it. -/
def isContinuation (b : UInt8) : Bool := 0x80 ≤ b && b < 0xC0

/-- The start of the character holding the byte at `offset`. -/
def charStart (src : ByteArray) (offset : Nat) : Nat :=
  let rec back : Nat → Nat → Nat
    | 0, i => i
    | n + 1, i =>
      match src[i]? with
      | some b => if i > 0 && isContinuation b then back n (i - 1) else i
      | none => i
  back 3 offset

/-- How many bytes the character starting at `offset` takes; none at the end. -/
def charWidth (src : ByteArray) (offset : Nat) : Nat :=
  if offset ≥ src.size then 0
  else 1 + (scanWhile src isContinuation 3 (offset + 1) - (offset + 1))

/-- Reads a TOML document; a failure points at the character where reading stopped. -/
def read (source : String) : Except Error Table :=
  let src := source.toUTF8
  match (document.run src).run 0 with
  | .ok (t, _) => .ok t
  | .error f =>
    let offset := charStart src f.offset
    .error { message := f.message, span := some ⟨offset, offset + charWidth src offset⟩ }

end SessionSquash.Toml
