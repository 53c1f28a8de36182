import SessionSquash.Json.Write

namespace SessionSquash.Toml

/-- A half-open byte range of the source. -/
structure Span where
  start : Nat
  stop : Nat
deriving Inhabited, DecidableEq

/-- A TOML value. Nested values carry their own spans. -/
inductive Value where
  | string (s : String)
  | integer (i : Int)
  | float (x : Binary64)
  | boolean (b : Bool)
  | datetime (text : String)
  | array (items : List (Value × Span))
  | inlineTable (entries : List (String × Span × Value × Span))
deriving Inhabited

namespace Value

/-- The name a value's type goes by in messages about extending it. -/
def typeName : Value → String
  | .string _ => "string"
  | .integer _ => "integer"
  | .float _ => "float"
  | .boolean _ => "boolean"
  | .datetime _ => "datetime"
  | .array _ => "array"
  | .inlineTable _ => "inline table"

end Value

/-- A key of a table: its name, its text as written, and where it was written. -/
structure Key where
  name : String
  raw : String
  span : Span
deriving Inhabited

/-- An entry of a table: a value, a table, or an array of tables. -/
inductive Node where
  | value (v : Value) (span : Span)
  /-- A table. `implicit` tables were only named on the way to another one; `dotted` tables
  were made by dotted keys. `header` is the span of the table's own header, if it has one. -/
  | table (implicit dotted : Bool) (header : Option Span) (entries : List (Key × Node))
  | tables (items : List (Option Span × List (Key × Node)))
deriving Inhabited

/-- What a parser expected to find. -/
inductive Expectation where
  | char (c : Char)
  | literal (s : String)
  | description (s : String)
deriving Inhabited, DecidableEq

namespace Expectation

def render : Expectation → String
  | .char '\n' => "newline"
  | .char '`' => "'`'"
  | .char c => "`" ++ c.toString ++ "`"
  | .literal s => "`" ++ s ++ "`"
  | .description s => s

end Expectation

/-- Context gathered by a failure on its way out: what was being read, and what would have
been accepted. -/
inductive Context where
  | label (what : String)
  | expected (e : Expectation)
deriving Inhabited, DecidableEq

/-- A syntax failure. `cut` failures are final; others let an alternative be tried. The
context is listed innermost first. -/
structure Failure where
  cut : Bool
  offset : Nat
  context : List Context := []
  cause : Option String := none
deriving Inhabited

namespace Failure

/-- `invalid <label>`, then `expected ...`, then the cause, one per line. -/
def message (f : Failure) : String :=
  let label := f.context.findSome? fun c => match c with | .label s => some s | _ => none
  let expected := f.context.filterMap fun c => match c with | .expected e => some e | _ => none
  let parts :=
    (label.map ("invalid " ++ ·)).toList ++
    (if expected.isEmpty then [] else ["expected " ++ ", ".intercalate (expected.map Expectation.render)]) ++
    f.cause.toList
  "\n".intercalate parts

end Failure

/-- An error of reading a document into settings. -/
structure Error where
  message : String
  span : Option Span := none
deriving Inhabited

namespace Error

/-- Line and column, both from zero, of a byte offset. The column counts characters, unless
the line up to the offset is not whole UTF-8, when it counts bytes. An offset past the end
counts on from the last byte. -/
def position (src : ByteArray) (index : Nat) : Nat × Nat :=
  if src.size = 0 then (0, index)
  else
    let safe := min index (src.size - 1)
    let extra := index - safe
    let before := (src.extract 0 safe).toList
    let lineStart := match before.reverse.findIdx? (· == 10) with
      | some k => safe - k
      | none => 0
    let line := (before.take lineStart).count 10
    let slice := src.extract lineStart (safe + 1)
    let column := match String.fromUTF8? slice with
      | some s => s.length - 1
      | none => safe - lineStart
    (line, column + extra)

def spaces (n : Nat) : String := String.ofList (List.replicate n ' ')

/-- The error as the reader displays it: with a span, the position, the quoted line and the
underline, then the message; the text ends with a newline. -/
def render (e : Error) (source : String) : String :=
  match e.span with
  | none => e.message ++ "\n"
  | some span =>
    let src := source.toUTF8
    let (line, column) := position src span.start
    let lineNo := toString (line + 1)
    let gutter := lineNo.length
    let content := ((source.splitOn "\n")[line]?).getD ""
    let width := min (span.stop - span.start) (content.utf8ByteSize - column)
    "TOML parse error at line " ++ lineNo ++ ", column " ++ toString (column + 1) ++ "\n" ++
    spaces (gutter + 1) ++ "|\n" ++
    lineNo ++ " | " ++ content ++ "\n" ++
    spaces (gutter + 1) ++ "|" ++ spaces (column + 1) ++ "^" ++
      String.ofList (List.replicate (width - 1) '^') ++ "\n" ++
    e.message ++ "\n"

end Error

end SessionSquash.Toml
