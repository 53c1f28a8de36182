import SessionSquash.Json.Value

namespace SessionSquash

/-- Why a text is not one JSON document. -/
inductive SyntaxError where
  | eofWhileParsingList
  | eofWhileParsingObject
  | eofWhileParsingString
  | eofWhileParsingValue
  | expectedColon
  | expectedListCommaOrEnd
  | expectedObjectCommaOrEnd
  | expectedSomeIdent
  | expectedSomeValue
  | invalidEscape
  | invalidNumber
  | numberOutOfRange
  | controlCharacterWhileParsingString
  | keyMustBeAString
  | loneLeadingSurrogateInHexEscape
  | trailingComma
  | trailingCharacters
  | unexpectedEndOfHexEscape
  | recursionLimitExceeded
deriving DecidableEq, Repr

def SyntaxError.message : SyntaxError → String
  | .eofWhileParsingList => "EOF while parsing a list"
  | .eofWhileParsingObject => "EOF while parsing an object"
  | .eofWhileParsingString => "EOF while parsing a string"
  | .eofWhileParsingValue => "EOF while parsing a value"
  | .expectedColon => "expected `:`"
  | .expectedListCommaOrEnd => "expected `,` or `]`"
  | .expectedObjectCommaOrEnd => "expected `,` or `\x7d`"
  | .expectedSomeIdent => "expected ident"
  | .expectedSomeValue => "expected value"
  | .invalidEscape => "invalid escape"
  | .invalidNumber => "invalid number"
  | .numberOutOfRange => "number out of range"
  | .controlCharacterWhileParsingString =>
    "control character (\\u0000-\\u001F) found while parsing a string"
  | .keyMustBeAString => "key must be a string"
  | .loneLeadingSurrogateInHexEscape => "lone leading surrogate in hex escape"
  | .trailingComma => "trailing comma"
  | .trailingCharacters => "trailing characters"
  | .unexpectedEndOfHexEscape => "unexpected end of hex escape"
  | .recursionLimitExceeded => "recursion limit exceeded"

structure ReadError where
  code : SyntaxError
  /-- The byte offset the error's line and column are computed from. -/
  offset : Nat
deriving DecidableEq, Repr

/-- Line (from 1) and column (bytes since the line's start) of a byte offset. -/
def lineColumn (text : String) (offset : Nat) : Nat × Nat :=
  let step (acc : Nat × Nat × Nat) (c : Char) : Nat × Nat × Nat :=
    let (line, lineStart, pos) := acc
    if pos < offset then
      let next := pos + c.utf8Size
      if c == '\n' then (line + 1, next, next) else (line, lineStart, next)
    else acc
  let (line, lineStart, _) := text.toList.foldl step (1, 0, 0)
  (line, offset - lineStart)

def ReadError.message (e : ReadError) (text : String) : String :=
  let (line, column) := lineColumn text e.offset
  s!"{e.code.message} at line {line} column {column}"

/-- The unread rest of a text and the byte offset it starts at. -/
structure Cursor where
  rest : List Char
  offset : Nat

abbrev Reader := StateT Cursor (Except ReadError)

namespace Reader

def peek : Reader (Option Char) := do
  return (← get).rest.head?

def bump : Reader Unit :=
  modify fun c =>
    match c.rest with
    | [] => c
    | ch :: rest => ⟨rest, c.offset + ch.utf8Size⟩

/-- An error positioned after what has been read. -/
def fail {α : Type} (code : SyntaxError) : Reader α := do
  throw ⟨code, (← get).offset⟩

/-- An error positioned one byte further, where a look at the next character found it. -/
def failAhead {α : Type} (code : SyntaxError) : Reader α := do
  let c ← get
  throw ⟨code, if c.rest.isEmpty then c.offset else c.offset + 1⟩

def isBlank (c : Char) : Bool := c == ' ' || c == '\n' || c == '\t' || c == '\r'

/-- Skips blanks and looks at the next character. -/
def skipBlanks : Reader (Option Char) := do
  modify fun c =>
    let blanks := c.rest.takeWhile isBlank
    ⟨c.rest.drop blanks.length, c.offset + blanks.length⟩
  peek

def isDigit (c : Char) : Bool := '0' ≤ c && c ≤ '9'

def digitValue (c : Char) : Nat := c.toNat - 48

def maxU64 : Nat := Nat.pow 2 64 - 1

def maxI32 : Int := Int.pow 2 31 - 1

/-- Reads the rest of a keyword whose first letter has been read. -/
def keyword (letters : List Char) : Reader Unit :=
  letters.forM fun expected => do
    match ← peek with
    | none => fail .eofWhileParsingValue
    | some c => if c != expected then failAhead .expectedSomeIdent else bump

/-- Reads digits while `keep` accepts them, folding them into the accumulator. -/
def digitsWhile {σ : Type} (keep : σ → Nat → Bool) (add : σ → Nat → σ) (start : σ) :
    Reader (σ × Bool) := do
  let c ← get
  let rec go : List Char → Nat → σ → (List Char × Nat × σ × Bool)
    | [], n, acc => ([], n, acc, false)
    | ch :: rest, n, acc =>
      if isDigit ch then
        if keep acc (digitValue ch) then go rest (n + 1) (add acc (digitValue ch))
        else (ch :: rest, n, acc, true)
      else (ch :: rest, n, acc, false)
  let (rest, n, acc, stopped) := go c.rest 0 start
  set (⟨rest, c.offset + n⟩ : Cursor)
  return (acc, stopped)

/-- Skips digits, counting them. -/
def skipDigits : Reader Nat := do
  let c ← get
  let ds := c.rest.takeWhile isDigit
  set (⟨c.rest.drop ds.length, c.offset + ds.length⟩ : Cursor)
  return ds.length

end Reader

/-- The double nearest each step of `significand * 10^exponent`: a power of ten up to
`1e308` is applied in one rounded multiplication or division, a smaller one first by
repeated division by `1e308`. -/
def scaleByPowerOfTen (significand : Nat) (exponent : Int) : Option Binary64 :=
  let pow (k : Nat) : Binary64 := Binary64.ofNat (Nat.pow 10 k)
  let rec go : Nat → Binary64 → Int → Option Binary64
    | 0, f, _ => some f
    | fuel + 1, f, e =>
      if e.natAbs ≤ 308 then
        if 0 ≤ e then
          let r := f.mul (pow e.natAbs)
          if r.isInfinite then none else some r
        else some (f.div (pow e.natAbs))
      else if f.isZero then some f
      else if 0 ≤ e then none
      else go fuel (f.div (pow 308)) (e + 308)
  go (exponent.natAbs / 308 + 2) (Binary64.ofNat significand) exponent

namespace Reader

def fromParts (positive : Bool) (significand : Nat) (exponent : Int) : Reader Binary64 := do
  match scaleByPowerOfTen significand exponent with
  | some f => return if positive then f else f.neg
  | none => fail .numberOutOfRange

def exponentPart (positive : Bool) (significand : Nat) (start : Int) : Reader Binary64 := do
  bump
  let positiveExp ← do
    match ← peek with
    | some '+' => bump; pure true
    | some '-' => bump; pure false
    | _ => pure true
  match ← peek with
  | none => fail .eofWhileParsingValue
  | some c =>
    if !isDigit c then failAhead .invalidNumber
    else
      bump
      let (exp, overflowed) ← digitsWhile (fun e d => e * 10 + d ≤ maxI32.toNat)
        (fun e d => e * 10 + d) (digitValue c)
      if overflowed then
        bump
        if significand != 0 && positiveExp then fail .numberOutOfRange
        else
          let _ ← skipDigits
          return if positive then Binary64.zero else Binary64.zero.neg
      else
        let total := if positiveExp then start + exp else start - exp
        fromParts positive significand (max (-(Int.pow 2 31)) (min maxI32 total))

def afterDigits (positive : Bool) (significand : Nat) (exponent : Int) : Reader Binary64 := do
  match ← peek with
  | some 'e' | some 'E' => exponentPart positive significand exponent
  | _ => fromParts positive significand exponent

def fractionPart (positive : Bool) (significand : Nat) (before : Int) : Reader Binary64 := do
  bump
  let start := (← get).offset
  let (s, overflowed) ← digitsWhile (fun s d => s * 10 + d ≤ maxU64) (fun s d => s * 10 + d)
    significand
  let read := (← get).offset - start
  if overflowed then
    let _ ← skipDigits
    afterDigits positive s (before - read)
  else if read == 0 then
    match ← peek with
    | some _ => failAhead .invalidNumber
    | none => failAhead .eofWhileParsingValue
  else afterDigits positive s (before - read)

/-- An integer too long for 64 bits: later digits only scale it. -/
def longInteger (positive : Bool) (significand : Nat) : Reader Binary64 := do
  let extra ← skipDigits
  match ← peek with
  | some '.' => fractionPart positive significand extra
  | some 'e' | some 'E' => exponentPart positive significand extra
  | _ => fromParts positive significand extra

def integerResult (positive : Bool) (significand : Nat) : Number :=
  if positive then .nat significand
  else if significand == 0 then .double Binary64.zero.neg
  else if significand ≤ Nat.pow 2 63 then .negInt (-(significand : Int))
  else .double (Binary64.ofNat significand).neg

def afterSignificand (positive : Bool) (significand : Nat) : Reader Number := do
  match ← peek with
  | some '.' => return .double (← fractionPart positive significand 0)
  | some 'e' | some 'E' => return .double (← exponentPart positive significand 0)
  | _ => return integerResult positive significand

/-- A number whose sign, if any, has been read. -/
def number (positive : Bool) : Reader Number := do
  match ← peek with
  | none => fail .eofWhileParsingValue
  | some c =>
    if !isDigit c then failAhead .invalidNumber
    else if c == '0' then
      bump
      match ← peek with
      | some d => if isDigit d then failAhead .invalidNumber else afterSignificand positive 0
      | none => afterSignificand positive 0
    else
      bump
      let (s, overflowed) ← digitsWhile (fun s d => s * 10 + d ≤ maxU64)
        (fun s d => s * 10 + d) (digitValue c)
      if overflowed then return .double (← longInteger positive s)
      else afterSignificand positive s

def hexValue (c : Char) : Option Nat :=
  if isDigit c then some (digitValue c)
  else if 'a' ≤ c && c ≤ 'f' then some (c.toNat - 87)
  else if 'A' ≤ c && c ≤ 'F' then some (c.toNat - 55)
  else none

/-- Four hexadecimal digits of a `\u` escape. -/
def hexEscape : Reader Nat := do
  let c ← get
  let bytes := c.rest.foldl (fun n ch => n + ch.utf8Size) 0
  if bytes < 4 then
    set (⟨[], c.offset + bytes⟩ : Cursor)
    fail .eofWhileParsingString
  else
    let four := c.rest.take 4
    let digits := four.filterMap hexValue
    if four.all (·.toNat < 128) then
      set (⟨c.rest.drop 4, c.offset + 4⟩ : Cursor)
    else
      set (⟨c.rest, c.offset + 4⟩ : Cursor)
    if digits.length == 4 && four.all (·.toNat < 128) then
      return digits.foldl (fun n d => n * 16 + d) 0
    else fail .invalidEscape

/-- Reads the expected character of a string, reporting one that differs after its first
byte. -/
def expectChar (expected : Char) (code : SyntaxError) : Reader Unit := do
  match ← peek with
  | none => fail .eofWhileParsingString
  | some c => if c == expected then bump else failAhead code

/-- The character of a `\u` escape whose `u` has been read; a high surrogate must be
followed by an escaped low one. -/
def unicodeEscape : Reader Char := do
  let n ← hexEscape
  if 0xDC00 ≤ n && n ≤ 0xDFFF then fail .loneLeadingSurrogateInHexEscape
  else if n < 0xD800 || n > 0xDBFF then return Char.ofNat n
  else
    expectChar '\\' .unexpectedEndOfHexEscape
    expectChar 'u' .unexpectedEndOfHexEscape
    let n2 ← hexEscape
    if n2 < 0xDC00 || n2 > 0xDFFF then fail .loneLeadingSurrogateInHexEscape
    else return Char.ofNat (((n - 0xD800) * 1024 + (n2 - 0xDC00)) + 0x10000)

/-- The character a one-letter escape stands for. -/
def escaped : Char → Option Char
  | '"' => some '"'
  | '\\' => some '\\'
  | '/' => some '/'
  | 'b' => some '\x08'
  | 'f' => some '\x0c'
  | 'n' => some '\n'
  | 'r' => some '\r'
  | 't' => some '\t'
  | _ => none

/-- The character an escape whose backslash has been read stands for; an unknown escape is
reported after the first byte of its character. -/
def escape : Reader Char := do
  match ← peek with
  | none => fail .eofWhileParsingString
  | some 'u' => bump; unicodeEscape
  | some c =>
    match escaped c with
    | some e => bump; pure e
    | none => failAhead .invalidEscape

/-- The rest of a string whose opening quote has been read. -/
def stringBody : Reader String := do
  let rec go : Nat → List Char → Reader String
    | 0, acc => return String.ofList acc.reverse
    | fuel + 1, acc => do
      match ← peek with
      | none => fail .eofWhileParsingString
      | some '"' => bump; return String.ofList acc.reverse
      | some '\\' => bump; go fuel ((← escape) :: acc)
      | some c =>
        bump
        if c.toNat < 0x20 then fail .controlCharacterWhileParsingString
        else go fuel (c :: acc)
  go ((← get).rest.length + 1) []

mutual

/-- One value; `depth` is how many more containers may open. -/
def value : Nat → Nat → Reader Json
  | 0, _ => fail .eofWhileParsingValue
  | fuel + 1, depth => do
    match ← skipBlanks with
    | none => failAhead .eofWhileParsingValue
    | some c =>
      match c with
      | 'n' => bump; keyword ['u', 'l', 'l']; pure .null
      | 't' => bump; keyword ['r', 'u', 'e']; pure (.bool true)
      | 'f' => bump; keyword ['a', 'l', 's', 'e']; pure (.bool false)
      | '-' => bump; return .number (← number false)
      | '"' => bump; return .string (← stringBody)
      | '[' =>
        if depth ≤ 1 then failAhead .recursionLimitExceeded
        else
          bump
          let items ← elements fuel (depth - 1) true []
          match ← skipBlanks with
          | some ']' => bump; pure (.array items)
          | some ',' => failAhead .trailingComma
          | some _ => failAhead .trailingCharacters
          | none => failAhead .eofWhileParsingList
      | '{' =>
        if depth ≤ 1 then failAhead .recursionLimitExceeded
        else
          bump
          let fields ← members fuel (depth - 1) true []
          match ← skipBlanks with
          | some '}' => bump; pure (.object fields)
          | some ',' => failAhead .trailingComma
          | some _ => failAhead .trailingCharacters
          | none => failAhead .eofWhileParsingObject
      | c => if isDigit c then return .number (← number true) else failAhead .expectedSomeValue

/-- Array elements up to, not including, the closing bracket. -/
def elements : Nat → Nat → Bool → List Json → Reader (List Json)
  | 0, _, _, _ => fail .eofWhileParsingList
  | fuel + 1, depth, first, acc => do
    let next ← do
      match ← skipBlanks with
      | some ']' => pure none
      | some ',' =>
        if first then failAhead .expectedListCommaOrEnd
        else bump; pure (some (← skipBlanks))
      | some c =>
        if first then pure (some (some c)) else failAhead .expectedListCommaOrEnd
      | none => failAhead .eofWhileParsingList
    match next with
    | none => return acc.reverse
    | some (some ']') => failAhead .trailingComma
    | some none => failAhead .eofWhileParsingValue
    | some (some _) =>
      let item ← value fuel depth
      elements fuel depth false (item :: acc)

/-- Object members up to, not including, the closing brace. -/
def members : Nat → Nat → Bool → List (String × Json) → Reader (List (String × Json))
  | 0, _, _, _ => fail .eofWhileParsingObject
  | fuel + 1, depth, first, acc => do
    let next ← do
      match ← skipBlanks with
      | some '}' => pure none
      | some ',' =>
        if first then failAhead .expectedObjectCommaOrEnd
        else bump; pure (some (← skipBlanks))
      | some c =>
        if first then pure (some (some c)) else failAhead .expectedObjectCommaOrEnd
      | none => failAhead .eofWhileParsingObject
    match next with
    | none => return acc.reverse
    | some (some '"') =>
      bump
      let key ← stringBody
      match ← skipBlanks with
      | some ':' => bump
      | some _ => failAhead .expectedColon
      | none => failAhead .eofWhileParsingObject
      let item ← value fuel depth
      members fuel depth false ((key, item) :: acc)
    | some (some '}') => failAhead .trailingComma
    | some (some _) => failAhead .keyMustBeAString
    | some none => failAhead .eofWhileParsingValue

end

end Reader

namespace Json

/-- Reads a text holding exactly one JSON document, blanks around it allowed. Objects keep
their fields in text order, duplicates included. -/
def read (text : String) : Except ReadError Json :=
  let chars := text.toList
  let whole : Reader Json := do
    let j ← Reader.value (2 * chars.length + 4) 128
    match ← Reader.skipBlanks with
    | some _ => Reader.failAhead .trailingCharacters
    | none => pure j
  (whole.run ⟨chars, 0⟩).map (·.1)

end Json

end SessionSquash
