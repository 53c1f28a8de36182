import SessionSquash.Text.Printable
import SessionSquash.Text.GraphemeExtend

namespace SessionSquash.Text

/-- The code point of a character as a quoted message spells it out. -/
def codePointEscape (c : Char) : String :=
  "\\u" ++ "\x7b" ++ String.ofList (Nat.toDigits 16 c.toNat) ++ "\x7d"

/-- How a character is written inside a quoted string. -/
def escapeInQuote (c : Char) : String :=
  match c with
  | '"' => "\\\""
  | '\\' => "\\\\"
  | '\n' => "\\n"
  | '\r' => "\\r"
  | '\t' => "\\t"
  | '\x00' => "\\0"
  | c => if isGraphemeExtend c || !isPrintable c then codePointEscape c else c.toString

/-- The string in double quotes, each character escaped as it needs. -/
def quote (s : String) : String :=
  "\"" ++ String.join (s.toList.map escapeInQuote) ++ "\""

end SessionSquash.Text
