import SessionSquash.Toml.Document
import SessionSquash.Binary.Float

namespace SessionSquash.Toml

abbrev Reader := ReaderT ByteArray (StateT Nat (Except Failure))

namespace Reader

def here : Reader Nat := getThe Nat

def peek : Reader (Option UInt8) := do
  let src ← read
  return src[← here]?

def fuel : Reader Nat := do return (← read).size + 1

def advance (n : Nat) : Reader Unit := modifyThe Nat (· + n)

/-- A plain failure where the reader stands. -/
def backtrack {α : Type} : Reader α := do throw { cut := false, offset := ← here }

/-- A failure at a given offset, with a cause. -/
def failWith {α : Type} (cut : Bool) (offset : Nat) (cause : String) : Reader α :=
  throw { cut, offset, cause := some cause }

/-- Makes every failure of `p` final. -/
def cutErr {α : Type} (p : Reader α) : Reader α :=
  tryCatch p fun f => throw { f with cut := true }

/-- Adds context to every failure of `p`. -/
def withContext {α : Type} (c : Context) (p : Reader α) : Reader α :=
  tryCatch p fun f => throw { f with context := f.context ++ [c] }

def withLabel {α : Type} (what : String) (p : Reader α) : Reader α := withContext (.label what) p

def expecting {α : Type} (e : Expectation) (p : Reader α) : Reader α := withContext (.expected e) p

/-- `p`, or nothing if it fails plainly; the input is then left as it was. -/
def opt {α : Type} (p : Reader α) : Reader (Option α) :=
  tryCatch (some <$> p) fun f => if f.cut then throw f else pure none

/-- `p`, or else `q` from the same place if `p` fails plainly. -/
def orElse {α : Type} (p q : Reader α) : Reader α :=
  tryCatch p fun f => if f.cut then throw f else q

/-- Runs `p` and returns to where it started. -/
def lookahead {α : Type} (p : Reader α) : Reader α := do
  let start ← here
  let v ← p
  set start
  return v

/-- `p` as often as it succeeds. -/
def manyFor {α : Type} (p : Reader α) : Nat → Reader (List α)
  | 0 => pure []
  | n + 1 => do
    match ← opt p with
    | some x => return x :: (← manyFor p n)
    | none => pure []

def many {α : Type} (p : Reader α) : Reader (List α) := do manyFor p (← fuel)

/-- One or more `p`, separated by `sep`. A separator not followed by `p` is left unread. -/
def separated1 {α : Type} (p : Reader α) (sep : Reader Unit) : Reader (List α) := do
  let first ← p
  let rest ← many (do sep; p)
  return first :: rest

def separated0 {α : Type} (p : Reader α) (sep : Reader Unit) : Reader (List α) := do
  return (← opt (separated1 p sep)).getD []

def byte (b : UInt8) : Reader Unit := do
  if (← peek) == some b then advance 1 else backtrack

def oneOf (pred : UInt8 → Bool) : Reader UInt8 := do
  match ← peek with
  | some b => if pred b then do advance 1; pure b else backtrack
  | none => backtrack

def literal (s : String) : Reader Unit := do
  let src ← read
  let p ← here
  let bytes := s.toUTF8
  if src.extract p (p + bytes.size) == bytes then advance bytes.size else backtrack

def eof : Reader Unit := do
  if (← peek).isNone then pure () else backtrack

/-- The first offset from `i` on whose byte fails `pred`, looking at `most` bytes at most. -/
def scanWhile (src : ByteArray) (pred : UInt8 → Bool) : Nat → Nat → Nat
  | 0, i => i
  | n + 1, i =>
    match src[i]? with
    | some b => if pred b then scanWhile src pred n (i + 1) else i
    | none => i

/-- Between `least` and `most` bytes satisfying `pred`. -/
def takeRange (least most : Nat) (pred : UInt8 → Bool) : Reader ByteArray := do
  let src ← read
  let p ← here
  let stop := scanWhile src pred most p
  if stop - p < least then backtrack
  else
    advance (stop - p)
    pure (src.extract p stop)

def takeWhile (least : Nat) (pred : UInt8 → Bool) : Reader ByteArray := do
  takeRange least (← read).size pred

def text (bytes : List UInt8) : String := (String.fromUTF8? (ByteArray.mk bytes.toArray)).getD ""

def sliceFrom (start : Nat) : Reader (List UInt8) := do
  return ((← read).extract start (← here)).toList

end Reader

open SessionSquash.Toml.Reader

def isWs (b : UInt8) : Bool := b == 32 || b == 9
def isDigit (b : UInt8) : Bool := 48 ≤ b && b ≤ 57
def isHexDigit (b : UInt8) : Bool := isDigit b || (65 ≤ b && b ≤ 70) || (97 ≤ b && b ≤ 102)
def isNonEol (b : UInt8) : Bool := b == 9 || (32 ≤ b && b ≤ 126) || 128 ≤ b
def isUnquoted (b : UInt8) : Bool :=
  (65 ≤ b && b ≤ 90) || (97 ≤ b && b ≤ 122) || isDigit b || b == 45 || b == 95
def isBasicUnescaped (b : UInt8) : Bool :=
  isWs b || b == 0x21 || (0x23 ≤ b && b ≤ 0x5B) || (0x5D ≤ b && b ≤ 0x7E) || 0x80 ≤ b
def isLiteralChar (b : UInt8) : Bool :=
  b == 9 || (0x20 ≤ b && b ≤ 0x26) || (0x28 ≤ b && b ≤ 0x7E) || 0x80 ≤ b

def ws : Reader Unit := discard (takeWhile 0 isWs)

def comment : Reader Unit := do
  byte 35
  discard (takeWhile 0 isNonEol)

def newline : Reader Unit := orElse (byte 10) (do byte 13; byte 10)

def lineEnding : Reader Unit := orElse newline eof

/-- The rest of a line after an entry: blanks, perhaps a comment, and the line's end. -/
def lineTrailing : Reader Unit := do
  ws
  discard (opt comment)
  lineEnding

def wsNewline : Reader Unit := discard (many (orElse newline (discard (takeWhile 1 isWs))))

def wsNewlines : Reader Unit := do
  newline
  wsNewline

/-- Blanks, line ends and whole comment lines, as found between array items. -/
def wsCommentNewline : Reader Unit :=
  discard <| many do
    match ← peek with
    | some 35 => do comment; newline
    | some 10 | some 13 => do newline; wsNewline
    | some 32 | some 9 => do discard (takeWhile 1 isWs); wsNewline
    | _ => backtrack

def hexValue (bytes : List UInt8) : Nat :=
  bytes.foldl (fun acc b =>
    let d := if isDigit b then b.toNat - 48 else if b ≤ 70 then b.toNat - 55 else b.toNat - 87
    acc * 16 + d) 0

def utf8 (c : Char) : List UInt8 := (String.singleton c).toUTF8.toList

/-- Exactly `n` hexadecimal digits naming a scalar value. -/
def hexEscape (n : Nat) : Reader (List UInt8) := do
  let start ← here
  let digits ← takeRange 0 n isHexDigit
  if digits.size != n then
    set start
    backtrack
  else
    let code := hexValue digits.toList
    if code < 0xD800 || (0xDFFF < code && code ≤ 0x10FFFF) then pure (utf8 (Char.ofNat code))
    else failWith false start "value is out of range"

/-- What follows a backslash. -/
def escapeSequence : Reader (List UInt8) := do
  match ← peek with
  | none => backtrack
  | some b =>
    advance 1
    match b with
    | 98 => pure [8]
    | 102 => pure [12]
    | 110 => pure [10]
    | 114 => pure [13]
    | 116 => pure [9]
    | 92 => pure [92]
    | 34 => pure [34]
    | 117 => withLabel "unicode 4-digit hex code" (cutErr (hexEscape 4))
    | 85 => withLabel "unicode 8-digit hex code" (cutErr (hexEscape 8))
    | _ =>
      throw { cut := true, offset := ← here,
              context := [.label "escape sequence"] ++
                ['b', 'f', 'n', 'r', 't', 'u', 'U', '\\', '"'].map fun c => .expected (.char c) }

def escaped : Reader (List UInt8) := do
  byte 92
  escapeSequence

def basicString : Reader String := do
  byte 34
  let chunks ← many (orElse (ByteArray.toList <$> takeWhile 1 isBasicUnescaped) escaped)
  withLabel "basic string" (cutErr (byte 34))
  pure (text chunks.flatten)

def literalString : Reader String :=
  withLabel "literal string" do
    byte 39
    let body ← cutErr (takeWhile 0 isLiteralChar)
    cutErr (byte 39)
    pure (text body.toList)

/-- One or two quotes, if `term` follows them. -/
def quotesBefore (quote : UInt8) (term : Reader Unit) : Reader (List UInt8) :=
  orElse (do byte quote; byte quote; lookahead term; pure [quote, quote])
    (do byte quote; lookahead term; pure [quote])

def escapedNewline : Reader Unit := do
  let one : Reader Unit := do byte 92; ws; wsNewlines
  one
  discard (many one)

def multilineContent : Reader (List UInt8) :=
  orElse (ByteArray.toList <$> takeWhile 1 isBasicUnescaped)
    (orElse (do escapedNewline; pure [])
      (orElse escaped (do newline; pure [10])))

def multilineQuoteRuns : Nat → List UInt8 → Reader (List UInt8)
  | 0, acc => pure acc
  | n + 1, acc => do
    match ← opt (quotesBefore 34 (discard (oneOf (· != 34)))) with
    | none => pure acc
    | some quotes =>
      match ← opt multilineContent with
      | none => pure acc
      | some first =>
        let more ← many multilineContent
        multilineQuoteRuns n (acc ++ quotes ++ first ++ more.flatten)

def multilineBasicBody : Reader (List UInt8) := do
  let body := (← many multilineContent).flatten
  let body ← multilineQuoteRuns (← fuel) body
  let tail ← opt (quotesBefore 34 (literal "\"\"\""))
  pure (body ++ tail.getD [])

def multilineBasicString : Reader String :=
  withLabel "multiline basic string" do
    literal "\"\"\""
    discard (opt newline)
    let body ← cutErr multilineBasicBody
    cutErr (literal "\"\"\"")
    pure (text body)

def literalContent : Reader Unit := orElse (discard (oneOf isLiteralChar)) newline

/-- Drops the carriage return of every CRLF pair. -/
def joinCrLf : List UInt8 → List UInt8
  | 13 :: 10 :: rest => 10 :: joinCrLf rest
  | b :: rest => b :: joinCrLf rest
  | [] => []

def multilineLiteralBody : Reader (List UInt8) := do
  let start ← here
  discard (many literalContent)
  discard <| many do
    discard (quotesBefore 39 (discard (oneOf (· != 39))))
    literalContent
    discard (many literalContent)
  discard (opt (quotesBefore 39 (literal "'''")))
  return joinCrLf (← sliceFrom start)

def multilineLiteralString : Reader String :=
  withLabel "multiline literal string" do
    literal "'''"
    discard (opt newline)
    let body ← cutErr multilineLiteralBody
    cutErr (literal "'''")
    pure (text body)

def string : Reader String :=
  orElse multilineBasicString (orElse basicString (orElse multilineLiteralString literalString))

def simpleKey : Reader Key := do
  let start ← here
  let name ← match ← peek with
    | some 34 => basicString
    | some 39 => literalString
    | _ => do pure (text (← takeWhile 1 isUnquoted).toList)
  let stop ← here
  return ⟨name, text ((← read).extract start stop).toList, ⟨start, stop⟩⟩

/-- A dotted key, blanks allowed around each part. -/
def key : Reader (List Key) :=
  withLabel "key" (separated1 (do ws; let k ← simpleKey; ws; pure k) (byte 46))

def decimalValue (bytes : List UInt8) : Nat := bytes.foldl (fun acc b => acc * 10 + (b.toNat - 48)) 0

def unsignedDigits (least most : Nat) : Reader Nat := do
  return decimalValue (← takeRange least most isDigit).toList

/-- `p`'s value if it lies in `lo..hi`; otherwise an out-of-range failure where `p` began. -/
def inRange (lo hi : Nat) (p : Reader Nat) : Reader Nat := do
  let start ← here
  let v ← p
  if lo ≤ v && v ≤ hi then pure v else failWith false start "value is out of range"

def fullDate : Reader Unit := do
  let year ← unsignedDigits 4 4
  byte 45
  let month ← cutErr (inRange 1 12 (unsignedDigits 2 2))
  cutErr (byte 45)
  let dayStart ← here
  let day ← cutErr (inRange 1 31 (unsignedDigits 2 2))
  let leap := year % 4 == 0 && (year % 100 != 0 || year % 400 == 0)
  let most := if month == 2 then (if leap then 29 else 28)
    else if month == 4 || month == 6 || month == 9 || month == 11 then 30 else 31
  if most < day then failWith true dayStart "value is out of range" else pure ()

def partialTime : Reader Unit := do
  discard (inRange 0 23 (unsignedDigits 2 2))
  byte 58
  cutErr do
    discard (inRange 0 59 (unsignedDigits 2 2))
    byte 58
    discard (inRange 0 60 (unsignedDigits 2 2))
    discard (opt (do byte 46; discard (takeWhile 1 isDigit)))

def timeOffset : Reader Unit :=
  withLabel "time offset" <|
    orElse (discard (oneOf fun b => b == 90 || b == 122))
      (do
        discard (oneOf fun b => b == 43 || b == 45)
        cutErr do
          discard (inRange 0 23 (unsignedDigits 2 2))
          byte 58
          discard (inRange 0 59 (unsignedDigits 2 2)))

/-- A date with an optional time and offset, or a time alone; a failure inside names which. -/
def dateTime : Reader Unit :=
  orElse
    (withLabel "date-time" do
      fullDate
      discard <| opt do
        discard (oneOf fun b => b == 84 || b == 116 || b == 32)
        partialTime
        discard (opt timeOffset))
    (withLabel "time" partialTime)

def isSign (b : UInt8) : Bool := b == 43 || b == 45

def digitGroups (first : Reader Unit) (digit : Reader Unit) : Reader Unit := do
  first
  discard <| many (orElse digit (do
    byte 95
    expecting (.description "digit") (cutErr digit)))

def decimalInteger : Reader Unit :=
  withLabel "integer" do
    discard (opt (oneOf isSign))
    orElse (digitGroups (discard (oneOf fun b => 49 ≤ b && b ≤ 57)) (discard (oneOf isDigit)))
      (discard (oneOf isDigit))

def zeroPrefixableInt : Reader Unit := digitGroups (discard (oneOf isDigit)) (discard (oneOf isDigit))

def fraction : Reader Unit := do
  byte 46
  expecting (.description "digit") (cutErr zeroPrefixableInt)

def exponentPart : Reader Unit := do
  discard (oneOf fun b => b == 101 || b == 69)
  discard (opt (oneOf isSign))
  cutErr zeroPrefixableInt

/-- The value of a decimal number's text, underscores dropped, rounded to nearest. -/
def decimalFloat (bytes : List UInt8) : Binary64 :=
  let bytes := bytes.filter (· != 95)
  let negative := bytes.head? == some 45
  let bytes := if bytes.head?.any isSign then bytes.drop 1 else bytes
  let mantissa := bytes.takeWhile fun b => b != 101 && b != 69
  let exponentText := (bytes.dropWhile fun b => b != 101 && b != 69).drop 1
  let intPart := mantissa.takeWhile (· != 46)
  let fracPart := (mantissa.dropWhile (· != 46)).drop 1
  let expNegative := exponentText.head? == some 45
  let expDigits := if exponentText.head?.any isSign then exponentText.drop 1 else exponentText
  let e : Int := (if expNegative then -1 else 1) * decimalValue expDigits - fracPart.length
  let m := decimalValue (intPart ++ fracPart)
  if e ≥ 0 then Binary64.ofRat negative (m * Nat.pow 10 e.toNat) 1
  else Binary64.ofRat negative m (Nat.pow 10 e.natAbs)

def specialFloat : Reader Binary64 := do
  let sign ← opt (oneOf isSign)
  let v ← orElse (do literal "inf"; pure (Binary64.infinity false)) (do literal "nan"; pure Binary64.nan)
  pure (if sign == some 45 then v.neg else v)

def float : Reader Binary64 :=
  withLabel "floating-point number" <|
    orElse
      (do
        let start ← here
        decimalInteger
        orElse exponentPart (do fraction; discard (opt exponentPart))
        let x := decimalFloat (← sliceFrom start)
        if x == Binary64.infinity false then
          set start
          throw { cut := true, offset := start }
        else pure x)
      specialFloat

/-- Digits of a prefixed integer in the given radix. -/
def radixInteger (label : String) (pfx : String) (radix : Nat) (digit : UInt8 → Bool) : Reader Int := do
  let start ← here
  let body ← withLabel label do
    literal pfx
    let digitsStart ← here
    cutErr (digitGroups (discard (oneOf digit)) (discard (oneOf digit)))
    sliceFrom digitsStart
  let v := (body.filter (· != 95)).foldl (fun acc b =>
    let d := if isDigit b then b.toNat - 48 else if b ≤ 70 then b.toNat - 55 else b.toNat - 87
    acc * radix + d) 0
  if v < Nat.pow 2 63 then pure v else failWith true start "number too large to fit in target type"

def integer : Reader Int := do
  let src ← read
  let p ← here
  let lead := src.extract p (p + 2)
  if lead == "0x".toUTF8 then cutErr (radixInteger "hexadecimal integer" "0x" 16 isHexDigit)
  else if lead == "0o".toUTF8 then cutErr (radixInteger "octal integer" "0o" 8 fun b => 48 ≤ b && b ≤ 55)
  else if lead == "0b".toUTF8 then cutErr (radixInteger "binary integer" "0b" 2 fun b => b == 48 || b == 49)
  else
    decimalInteger
    let bytes := (← sliceFrom p).filter (· != 95)
    let negative := bytes.head? == some 45
    let magnitude := decimalValue (if bytes.head?.any isSign then bytes.drop 1 else bytes)
    if negative then
      if magnitude ≤ Nat.pow 2 63 then pure (-(magnitude : Int))
      else failWith true p "number too small to fit in target type"
    else if magnitude < Nat.pow 2 63 then pure magnitude
    else failWith true p "number too large to fit in target type"

/-- Reads where only a quoted string could begin. -/
def asString {α : Type} (p : Reader α) : Reader α :=
  expecting (.char '\'') (expecting (.char '"') (withLabel "string" p))

def array (item : Reader (Value × Span)) : Reader Value := do
  byte 91
  let items ← cutErr do
    let element : Reader (Value × Span) := do
      wsCommentNewline
      let v ← item
      wsCommentNewline
      pure v
    let items ← opt do
      let xs ← separated1 element (byte 44)
      discard (opt (byte 44))
      pure xs
    wsCommentNewline
    pure (items.getD [])
  expecting (.char ']') (withLabel "array" (cutErr (byte 93)))
  pure (.array items)

end SessionSquash.Toml
