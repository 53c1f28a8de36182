import SessionSquash.Record.Basic
import SessionSquash.Registry
import SessionSquash.Json.Read
import SessionSquash.Text.Space

namespace SessionSquash

/-- Why a line of a record log was refused. -/
inductive ParseError where
  | fieldCount (found : Nat)
  | invalidTimestamp (field : String)
  | unknownKind (field : String)
  | invalidDataJson (detail : String)
  | dataSchemaMismatch (kind : RecordKind) (detail : String)
  | versionMismatch (detail : String)
deriving Inhabited

def ParseError.message : ParseError → String
  | .fieldCount n => s!"expected 3 tab-separated fields, found {n}"
  | .invalidTimestamp f => s!"invalid time_ms (not i64): '{f}'"
  | .unknownKind f => s!"unknown record kind: '{f}'"
  | .invalidDataJson d => s!"invalid data JSON: {d}"
  | .dataSchemaMismatch k d => s!"data schema mismatch for {k.name}: {d}"
  | .versionMismatch d => s!"record log version mismatch: {d}"

/-- What one line holds. -/
inductive ParsedLine where
  | comment (text : String)
  | blank
  | record (r : TimedRecord)
deriving Inhabited

namespace RecordLog

def headerPrefix : String := "# recap record log v"

def currentVersion : Nat := 1

/-- The format version a header line names. -/
def detectVersion (line : String) : Except String Nat :=
  let trimmed := Text.trim line
  if trimmed.startsWith headerPrefix then
    let rest := String.ofList (trimmed.toList.drop headerPrefix.length)
    match Text.parseUInt32 rest with
    | none => .error s!"invalid version number '{rest}' in record log header"
    | some v =>
      if v > currentVersion then
        .error (s!"record log version {v} is newer than this build of recap " ++
          s!"(supports up to v{currentVersion}); upgrade recap to read it")
      else .ok v
  else
    .error s!"invalid record log header: expected '{headerPrefix}N', got '{trimmed}'"

/-- Reads one line. Trailing line feeds, then trailing carriage returns, are ignored. -/
def parseLine (registry : Registry) (line : String) : Except ParseError ParsedLine := do
  let text := Text.dropTrailing '\r' (Text.dropTrailing '\n' line)
  if text.startsWith "#" then return .comment text
  if (Text.trim text).isEmpty then return .blank
  let fields := text.splitOn "\t"
  match fields with
  | [timeField, kindField, dataField] =>
    let some time := Text.parseInt64 timeField | throw (.invalidTimestamp timeField)
    let some kind := RecordKind.ofName? kindField | throw (.unknownKind kindField)
    let data ← match Json.read dataField with
      | .ok j => pure j.toValue
      | .error e => throw (.invalidDataJson (e.message dataField))
    if registry.requires kind then
      match Record.decode kind false data with
      | .ok r => return .record ⟨time, r⟩
      | .error e => throw (.dataSchemaMismatch kind e.message)
    else return .record ⟨time, .raw kind data⟩
  | _ => throw (.fieldCount fields.length)

/-- A record log's records, and the lines skipped for naming an unknown kind. -/
structure Parsed where
  records : List TimedRecord
  /-- Line numbers, from 1, with the unknown kind each named. -/
  skipped : List (Nat × String)
deriving Inhabited

/-- Reads numbered lines onto the records and skipped lines read so far, both newest first,
until the lines run out or one is bad. -/
def readLines (registry : Registry) : Bool → Parsed → List (Nat × String) →
    Parsed × Option (Nat × ParseError)
  | _, p, [] => (p, none)
  | checked, p, (lineNo, line) :: rest =>
    if !checked && (Text.trimStart line).startsWith headerPrefix then
      match detectVersion line with
      | .ok _ => readLines registry true p rest
      | .error m => (p, some (lineNo, .versionMismatch m))
    else
      match parseLine registry line with
      | .ok (.record r) => readLines registry checked { p with records := r :: p.records } rest
      | .ok _ => readLines registry checked p rest
      | .error (.unknownKind k) =>
        readLines registry checked { p with skipped := (lineNo, k) :: p.skipped } rest
      | .error e => (p, some (lineNo, e))

/-- Reads a log up to its first bad line: the records and the skipped lines before that
line, in order, and the line's number and fault if there is one. The first line that
starts, after blanks, with the header prefix has its version checked and is otherwise
skipped; later such lines are comments. A line naming an unknown kind is skipped. -/
def read (registry : Registry) (text : String) : Parsed × Option (Nat × ParseError) :=
  let lines := Text.lines text
  let numbered := ((List.range lines.length).map (· + 1)).zip lines
  let (p, fault) := readLines registry false ⟨[], []⟩ numbered
  (⟨p.records.reverse, p.skipped.reverse⟩, fault)

/-- Reads a whole log, or gives the number and fault of its first bad line. -/
def parse (registry : Registry) (text : String) : Except (Nat × ParseError) Parsed :=
  match read registry text with
  | (p, none) => .ok p
  | (_, some e) => .error e

/-- The header block opening every log written. -/
def header : String := "# recap record log v1\n# fields: time_ms \\t kind \\t data\n"

/-- A record as one log line, without its line feed. -/
def lineOf (r : TimedRecord) : String :=
  s!"{r.time.toInt}\t{r.record.kind.name}\t{r.record.toJson.compact}"

/-- Why a record could not be written. Every payload has a JSON text, so the one refusal is a
payload whose text would break its line. -/
inductive WriteError where
  | newlineInPayload
deriving Inhabited, DecidableEq

def WriteError.message : WriteError → String
  | .newlineInPayload => "JSON payload contains a literal newline; records must fit on one line"

/-- A record as one log line, without its line feed, unless its payload's text holds a line
feed. -/
def toLogLine (r : TimedRecord) : Except WriteError String :=
  if r.record.toJson.compact.contains '\n' then .error .newlineInPayload else .ok (lineOf r)

def writeLine (r : TimedRecord) : Except WriteError String := (· ++ "\n") <$> toLogLine r

/-- The whole log: the header, then a line per record; the fault of the first record that cannot
be written otherwise. -/
def write (records : List TimedRecord) : Except WriteError String :=
  records.foldlM (fun out r => (out ++ ·) <$> writeLine r) header

end RecordLog

end SessionSquash
