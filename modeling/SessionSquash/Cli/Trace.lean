import SessionSquash.Json.Write
import SessionSquash.Text.Space
import SessionSquash.Text.Alphanumeric
import SessionSquash.Text.Pattern

namespace SessionSquash.Cli

inductive Level where
  | error
  | warn
  | info
  | debug
  | trace
deriving DecidableEq, Inhabited

namespace Level

/-- How verbose the level is: an event passes a limit of at least its rank. -/
def rank : Level → Nat
  | .error => 1
  | .warn => 2
  | .info => 3
  | .debug => 4
  | .trace => 5

def name : Level → String
  | .error => "ERROR"
  | .warn => "WARN"
  | .info => "INFO"
  | .debug => "DEBUG"
  | .trace => "TRACE"

/-- The terminal colour of the level's name. -/
def colour : Level → String
  | .error => "31"
  | .warn => "33"
  | .info => "32"
  | .debug => "34"
  | .trace => "35"

end Level

/-- A field's value: numbers and switches keep their type in JSON lines. -/
inductive FieldValue where
  | number (n : Int)
  | flag (b : Bool)
  | text (s : String)
deriving Inhabited

namespace FieldValue

def display : FieldValue → String
  | .number n => toString n
  | .flag b => toString b
  | .text s => s

def toJson : FieldValue → Json
  | .number n => Json.ofInt n
  | .flag b => .bool b
  | .text s => .string s

end FieldValue

structure Event where
  level : Level
  /-- The module the event comes from, such as `recap::cmd`. -/
  target : String
  message : String
  fields : List (String × FieldValue) := []
deriving Inhabited

/-- One directive of a filter. -/
structure Directive where
  target : Option String := none
  /-- The span name it requires, when it names one, even an empty one. -/
  span : Option String := none
  /-- Its field selectors as written, each a name with an optional `=value`. -/
  fields : List String := []
  /-- The most verbose rank it allows; 0 allows nothing. -/
  limit : Nat := 5
deriving Inhabited

namespace Directive

def levelWords : List (String × Nat) :=
  [("off", 0), ("error", 1), ("warn", 2), ("info", 3), ("debug", 4), ("trace", 5)]

def lowerAscii (s : String) : String := String.map Char.toLower s

def digitValue (ds : List Char) : Nat := ds.foldl (fun n d => n * 10 + (d.toNat - 48)) 0

/-- A level: a name in any case, or an unsigned whole number from 0 to 5, which may carry
a `+` and leading zeros. -/
def levelWord? (s : String) : Option Nat :=
  match levelWords.lookup (lowerAscii s) with
  | some n => some n
  | none =>
    let digits := match s.toList with
      | '+' :: ds => ds
      | ds => ds
    if !digits.isEmpty && digits.all Char.isDigit && digitValue digits ≤ 5 then
      some (digitValue digits)
    else none

/-- The field names of its selectors; a selector with `=` tests a value. -/
def fieldNames (d : Directive) : List String := d.fields.map fun f => (f.splitOn "=").headD f

/-- Whether it can only apply inside a span: it names a span, or tests a field's value. -/
def spanOnly (d : Directive) : Bool := d.span.isSome || d.fields.any (·.contains '=')

/-- Whether a text reads as a decimal number: a sign, then `inf`, `infinity` or `nan` in any
case, or digits with an optional point and an optional exponent, with a digit somewhere
before the exponent. -/
def readsAsNumber (v : String) : Bool :=
  let cs := match v.toList with
    | '+' :: rest | '-' :: rest => rest
    | rest => rest
  let word := lowerAscii (String.ofList cs)
  if word == "inf" || word == "infinity" || word == "nan" then true
  else
    let whole := cs.takeWhile Char.isDigit
    let afterWhole := cs.drop whole.length
    let (fraction, afterFraction) := match afterWhole with
      | '.' :: more => (more.takeWhile Char.isDigit, more.dropWhile Char.isDigit)
      | more => ([], more)
    let exponentOk := match afterFraction with
      | [] => true
      | e :: more =>
        (e == 'e' || e == 'E') &&
          let digits := match more with
            | '+' :: ds | '-' :: ds => ds
            | ds => ds
          !digits.isEmpty && digits.all Char.isDigit
    (!whole.isEmpty || !fraction.isEmpty) && exponentOk

/-- Whether a field selector is well formed: a value after `=`, up to any further `=`, must
read as a boolean, a number or a well-formed pattern. -/
def fieldWellFormed (f : String) : Bool :=
  match f.splitOn "=" with
  | _ :: value :: _ =>
    value == "true" || value == "false" || readsAsNumber value || Text.isWellFormedPattern value
  | _ => true

/-- Where reading a directive stands; a part being read remembers the byte it began at. -/
inductive Reading where
  | start
  | target
  | span (begin : Nat)
  | field (begin : Nat)
  | fields
  | complete
  | levelStart
  | level (begin : Nat)

/-- The bytes from `a` to `b` of a text, when they are whole characters. -/
def slice (src : ByteArray) (a b : Nat) : Option String := String.fromUTF8? (src.extract a b)

/-- The characters that may begin a target. -/
def beginsTarget (c : Char) : Bool := Text.isAlphanumeric c || c == '_' || c == '-' || c == ':'

/-- Reads one character, found at byte `i` of the trimmed directive; the parts it ends are
cut from `src`, the directive as written, at the same byte offsets. A target begins with a
letter, a digit, `_`, `-` or `:` and ends at `[` or `=`; a span selector is a name, or a
name and fields in braces, closed by `]`; a level follows `=`. -/
def readChar (src : ByteArray) (d : Directive) : Reading → Nat × Char → Option (Directive × Reading)
  | .start, (i, '[') => some (d, .span (i + 1))
  | .start, (_, c) => if beginsTarget c then some (d, .target) else none
  | .target, (i, '[') => (slice src 0 i).map fun t => ({ d with target := t }, .span (i + 1))
  | .target, (i, '=') => (slice src 0 i).map fun t => ({ d with target := t }, .levelStart)
  | .target, _ => some (d, .target)
  | .span b, (i, ']') => (slice src b i).map fun n => ({ d with span := some n }, .complete)
  | .span b, (i, '{') =>
    (slice src b i).map fun n => ({ d with span := if n.isEmpty then none else some n }, .field (i + 1))
  | .span b, _ => some (d, .span b)
  | .field b, (i, '}') =>
    (slice src b i).bind fun f =>
      if f.isEmpty || !fieldWellFormed f then none
      else some ({ d with fields := d.fields ++ [f] }, .fields)
  | .field b, (i, ',') =>
    (slice src b i).bind fun f =>
      if f.isEmpty || !fieldWellFormed f then none
      else some ({ d with fields := d.fields ++ [f] }, .field (i + 1))
  | .field b, _ => some (d, .field b)
  | .fields, (_, ']') => some (d, .complete)
  | .complete, (_, '=') => some (d, .levelStart)
  | .levelStart, (i, _) => some (d, .level i)
  | .level b, _ => some (d, .level b)
  | _, _ => none

def readChars (src : ByteArray) (d : Directive) (r : Reading) :
    List (Nat × Char) → Option (Directive × Reading)
  | [] => some (d, r)
  | c :: cs => (readChar src d r c).bind fun (d, r) => readChars src d r cs

/-- The characters of a text, each with the byte it starts at. -/
def withOffsets (s : String) : List (Nat × Char) :=
  (s.toList.foldl (fun (acc : Nat × List (Nat × Char)) c =>
    (acc.1 + c.utf8Size, (acc.1, c) :: acc.2)) (0, [])).2.reverse

/-- Reads one directive; `none` when it is malformed. A bare level sets the level for
every target. Otherwise the characters of the trimmed directive are read, while the parts
are cut from the directive as written, so blanks before it shift every cut. -/
def parse? (s : String) : Option Directive :=
  match levelWord? s with
  | some limit => some { limit }
  | none =>
    let src := s.toUTF8
    match readChars src {} .start (withOffsets (Text.trim s)) with
    | some (d, .target) => some { d with target := s }
    | some (d, .complete) | some (d, .levelStart) => some d
    | some (d, .level b) => ((slice src b src.size).bind levelWord?).map fun limit => { d with limit }
    | _ => none

/-- Whether the directive applies to an event outside every span. -/
def appliesTo (d : Directive) (e : Event) : Bool :=
  !d.spanOnly &&
    (match d.target with
      | some t => e.target.startsWith t
      | none => true) &&
    d.fieldNames.all fun n => n == "message" || e.fields.any (·.1 == n)

def compareLists : List String → List String → Ordering
  | [], [] => .eq
  | [], _ => .lt
  | _, [] => .gt
  | a :: as, b :: bs => (compare a b).then (compareLists as bs)

/-- The specificity order: a longer target, in bytes, then more field names; between equals,
the greater target, then the greater field names. Two directives compare equal when their
targets and field names are the same. -/
def specificity (a b : Directive) : Ordering :=
  (compare (a.target.map String.utf8ByteSize) (b.target.map String.utf8ByteSize)).then <|
    (compare a.fieldNames.length b.fieldNames.length).then <|
      (compare a.target b.target).then (compareLists a.fieldNames b.fieldNames)

end Directive

/-- The directives that can apply outside spans, most specific first; of two with the same
target and field names the later one counts. -/
structure Filter where
  directives : List Directive := []
deriving Inhabited

namespace Filter

def ofDirectives (ds : List Directive) : Filter :=
  let unscoped := ds.filter (!·.spanOnly)
  let kept := unscoped.zipIdx.filter fun (d, i) =>
    !(unscoped.drop (i + 1)).any fun e => Directive.specificity d e == .eq
  ⟨(kept.map Prod.fst).mergeSort fun a b => Directive.specificity a b != .lt⟩

/-- Reads a filter; `none` when any directive is malformed. Empty pieces are ignored. -/
def parse? (s : String) : Option Filter :=
  let pieces := (s.splitOn ",").filter (!·.isEmpty)
  (pieces.mapM Directive.parse?).map ofDirectives

def allows (f : Filter) (e : Event) : Bool :=
  match f.directives.find? (·.appliesTo e) with
  | some d => e.level.rank ≤ d.limit
  | none => false

/-- The filter in force: the one the setting gives when it reads, otherwise the
default, which shows debug events of the tool when it runs verbosely. -/
def choose (setting : Option String) (verbose : Bool) : Filter :=
  let fallback := if verbose then "recap=debug,info" else "recap=info,warn"
  match setting.bind parse? with
  | some f => f
  | none => (parse? fallback).getD {}

end Filter

/-- How events are written. -/
inductive LogStyle where
  /-- One line per event, with terminal colours when `colour` holds. -/
  | compact (colour : Bool)
  /-- One JSON object per line. -/
  | json
deriving Inhabited

/-- The filter, the style and the time stamp events are written with. -/
structure Tracer where
  filter : Filter
  style : LogStyle
  clock : String
deriving Inhabited

namespace Tracer

def dim (s : String) : String := "\x1b[2m" ++ s ++ "\x1b[0m"

/-- The event as one line of text, with its line feed. -/
def line (t : Tracer) (e : Event) : String :=
  match t.style with
  | .compact true =>
    dim t.clock ++ " \x1b[" ++ e.level.colour ++ "m" ++ "".pushn ' ' (5 - e.level.name.length) ++
      e.level.name ++ "\x1b[0m " ++ dim e.target ++ dim ":" ++ " " ++ e.message ++
      String.join (e.fields.map fun (n, v) => " \x1b[3m" ++ n ++ "\x1b[0m" ++ dim "=" ++ v.display) ++
      "\n"
  | .compact false =>
    t.clock ++ " " ++ "".pushn ' ' (5 - e.level.name.length) ++ e.level.name ++ " " ++
      e.target ++ ": " ++ e.message ++
      String.join (e.fields.map fun (n, v) => " " ++ n ++ "=" ++ v.display) ++ "\n"
  | .json =>
    (Json.object [("timestamp", .string t.clock), ("level", .string e.level.name),
      ("fields", .object (("message", .string e.message) :: e.fields.map fun (n, v) => (n, v.toJson))),
      ("target", .string e.target)]).compact ++ "\n"

/-- What writing the event adds to standard error: its line, when the filter allows it. -/
def render (t : Tracer) (e : Event) : String :=
  if t.filter.allows e then t.line e else ""

end Tracer

end SessionSquash.Cli
