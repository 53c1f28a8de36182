import SessionSquash.Json.Value
import SessionSquash.Decimal.Shortest

namespace SessionSquash

/-- Where positional notation ends for a precision, by the exponent of the first digit. -/
structure FloatStyle where
  format : BinaryFormat
  fixedMin : Int
  fixedMax : Int

namespace FloatStyle

/-- Double precision is positional from `1e-5` up to below `1e16`. -/
def double : FloatStyle := ⟨.binary64, -5, 15⟩

/-- Single precision is positional from `1e-6` up to below `1e13`. -/
def single : FloatStyle := ⟨.binary32, -6, 12⟩

def zeros (n : Nat) : String := String.ofList (List.replicate n '0')

/-- The text of a finite value `±m * 2^q`: positional within the style's range, otherwise the
shortest digits with an exponent that always carries its sign, as in `1e+300` and `1.5e-7`. -/
def render (style : FloatStyle) (negative : Bool) (m : Nat) (q : Int) : String :=
  let sign := if negative then "-" else ""
  if m == 0 then sign ++ "0.0"
  else
    let (d, k) := style.format.shortest m q
    let digits := toString d
    let len := digits.length
    let e : Int := k + len - 1
    let body :=
      if style.fixedMin ≤ e && e ≤ style.fixedMax then
        if len ≤ e + 1 then digits ++ zeros (e + 1 - len).toNat ++ ".0"
        else if 0 ≤ e then
          String.ofList (digits.toList.take (e + 1).toNat) ++ "." ++
            String.ofList (digits.toList.drop (e + 1).toNat)
        else "0." ++ zeros (-e - 1).toNat ++ digits
      else
        let mantissa :=
          if len == 1 then digits
          else String.ofList (digits.toList.take 1) ++ "." ++ String.ofList (digits.toList.drop 1)
        mantissa ++ "e" ++ (if e < 0 then "-" else "+") ++ toString e.natAbs
    sign ++ body

end FloatStyle

def Binary64.render (x : Binary64) : String :=
  match x.value with
  | .finite s m q => FloatStyle.double.render s m q
  | _ => "null"

def Binary32.render (x : Binary32) : String :=
  match x.value with
  | .finite s m q => FloatStyle.single.render s m q
  | _ => "null"

def Number.render : Number → String
  | .nat n => toString n
  | .negInt n => toString n
  | .double x => x.render
  | .single x => x.render

namespace Json

def hexDigit (n : Nat) : Char :=
  if n < 10 then Char.ofNat (48 + n) else Char.ofNat (87 + n)

/-- A character inside a string: quote, backslash and control characters escaped, the
usual short escapes where they exist, everything else as itself. -/
def escapeChar (c : Char) : List Char :=
  match c with
  | '"' => ['\\', '"']
  | '\\' => ['\\', '\\']
  | '\n' => ['\\', 'n']
  | '\r' => ['\\', 'r']
  | '\t' => ['\\', 't']
  | '\x08' => ['\\', 'b']
  | '\x0c' => ['\\', 'f']
  | c =>
    if c.toNat < 0x20 then
      ['\\', 'u', '0', '0', hexDigit (c.toNat / 16), hexDigit (c.toNat % 16)]
    else [c]

def quote (s : String) : String :=
  String.ofList ('"' :: (s.toList.flatMap escapeChar ++ ['"']))

mutual

def compact : Json → String
  | .null => "null"
  | .bool b => if b then "true" else "false"
  | .number n => n.render
  | .string s => quote s
  | .array items => "[" ++ compactList items ++ "]"
  | .object fields => "\x7b" ++ compactFields fields ++ "\x7d"

def compactList : List Json → String
  | [] => ""
  | [j] => compact j
  | j :: rest => compact j ++ "," ++ compactList rest

def compactFields : List (String × Json) → String
  | [] => ""
  | [(k, j)] => quote k ++ ":" ++ compact j
  | (k, j) :: rest => quote k ++ ":" ++ compact j ++ "," ++ compactFields rest

end

def indent (level : Nat) : String := String.ofList (List.replicate (2 * level) ' ')

mutual

/-- The indented form: two spaces a level, one element or field a line. -/
def pretty (level : Nat) : Json → String
  | .array [] => "[]"
  | .object [] => "\x7b\x7d"
  | .array items => "[\n" ++ prettyList (level + 1) items ++ "\n" ++ indent level ++ "]"
  | .object fields => "\x7b\n" ++ prettyFields (level + 1) fields ++ "\n" ++ indent level ++ "\x7d"
  | j => compact j

def prettyList (level : Nat) : List Json → String
  | [] => ""
  | [j] => indent level ++ pretty level j
  | j :: rest => indent level ++ pretty level j ++ ",\n" ++ prettyList level rest

def prettyFields (level : Nat) : List (String × Json) → String
  | [] => ""
  | [(k, j)] => indent level ++ quote k ++ ": " ++ pretty level j
  | (k, j) :: rest => indent level ++ quote k ++ ": " ++ pretty level j ++ ",\n" ++ prettyFields level rest

end

end Json

end SessionSquash
