namespace SessionSquash

namespace Text

/-- The characters with the Unicode `White_Space` property. -/
def isBlank (c : Char) : Bool :=
  let n := c.toNat
  (0x09 ≤ n && n ≤ 0x0D) || n == 0x20 || n == 0x85 || n == 0xA0 || n == 0x1680 ||
    (0x2000 ≤ n && n ≤ 0x200A) || n == 0x2028 || n == 0x2029 || n == 0x202F ||
    n == 0x205F || n == 0x3000

def trimStart (s : String) : String := String.ofList (s.toList.dropWhile isBlank)

def trimEnd (s : String) : String := String.ofList (s.toList.reverse.dropWhile isBlank).reverse

def trim (s : String) : String := trimEnd (trimStart s)

/-- Removes every trailing occurrence of `c`. -/
def dropTrailing (c : Char) (s : String) : String :=
  String.ofList (s.toList.reverse.dropWhile (· == c)).reverse

/-- Removes one trailing occurrence of `c`, if there is one. -/
def dropOneTrailing (c : Char) (s : String) : String :=
  match s.toList.reverse with
  | d :: rest => if d == c then String.ofList rest.reverse else s
  | [] => s

/-- The lines of a text: split at line feeds, a line's carriage return before its line feed
removed, and no line after a final line feed. -/
def lines (text : String) : List String :=
  let pieces := text.splitOn "\n"
  let ended := pieces.dropLast.map (dropOneTrailing '\r')
  match pieces.getLast? with
  | some "" | none => ended
  | some last => ended ++ [last]

/-- Reads a decimal integer: an optional sign, then at least one ASCII digit, nothing else. -/
def parseInteger (allowMinus : Bool) (s : String) : Option Int :=
  let (negative, digits) :=
    match s.toList with
    | '+' :: rest => (false, rest)
    | '-' :: rest => (allowMinus, if allowMinus then rest else '-' :: rest)
    | cs => (false, cs)
  if digits.isEmpty || !digits.all Char.isDigit then none
  else
    let n : Nat := digits.foldl (fun n d => n * 10 + (d.toNat - 48)) 0
    some (if negative then -(n : Int) else n)

/-- A signed 64-bit integer written in decimal. -/
def parseInt64 (s : String) : Option Int64 :=
  match parseInteger true s with
  | some n => if -(Int.pow 2 63) ≤ n && n < Int.pow 2 63 then some (Int64.ofInt n) else none
  | none => none

/-- An unsigned 32-bit integer written in decimal, a plus sign allowed. -/
def parseUInt32 (s : String) : Option Nat :=
  match parseInteger false s with
  | some n => if 0 ≤ n && n < Int.pow 2 32 then some n.toNat else none
  | none => none

end Text

end SessionSquash
