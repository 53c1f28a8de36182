import SessionSquash.Text.Pattern.Syntax
import SessionSquash.Text.Space
import SessionSquash.Text.Alphanumeric

namespace SessionSquash.Text.Pattern

/-- Drops blanks and `#` comments, a comment running through the end of its line; `inComment`
says whether a comment is already open. -/
def dropBlanks : Bool → List Char → List Char
  | true, '\n' :: cs => dropBlanks false cs
  | true, _ :: cs => dropBlanks true cs
  | false, c :: cs =>
    if Text.isBlank c then dropBlanks false cs
    else if c == '#' then dropBlanks true cs
    else c :: cs
  | _, [] => []

theorem length_dropBlanks_le (b : Bool) (cs : List Char) : (dropBlanks b cs).length ≤ cs.length := by
  fun_induction dropBlanks b cs <;> simp_all <;> omega

/-- The character a spaced pattern shows after the current one, when the current one begins
a range: blanks and one `#` are passed over, and the first other character is seen even
inside the comment that `#` opens; with nothing else, the very next character. -/
def peekPast : Bool → List Char → Option Char
  | _, [] => none
  | inComment, c :: cs =>
    if Text.isBlank c then peekPast inComment cs
    else if !inComment && c == '#' then peekPast true cs
    else some c

/-- Where the reader stands: the unread characters, whether blanks are passed over, and the
group names taken so far. -/
structure Cursor where
  rest : List Char
  spaced : Bool := false
  names : List String := []
deriving Inhabited

namespace Cursor

/-- Passes over blanks and comments when the pattern is spaced. -/
def skip (cur : Cursor) : Cursor :=
  if cur.spaced then { cur with rest := dropBlanks false cur.rest } else cur

/-- The characters after the current position, blanks passed over when spaced. -/
def after (spaced : Bool) (cs : List Char) : List Char := if spaced then dropBlanks false cs else cs

theorem length_after_le (spaced : Bool) (cs : List Char) : (after spaced cs).length ≤ cs.length := by
  unfold after; split
  · exact length_dropBlanks_le false cs
  · exact Nat.le_refl _

/-- The character after the current one, as a range looks ahead for `]` or `-`. -/
def peekNext (spaced : Bool) (after : List Char) : Option Char :=
  if spaced then (peekPast false after).orElse fun _ => after.head? else after.head?

end Cursor

/-- What an escape stands for. -/
inductive Escaped where
  | literal (l : Literal)
  | anchor (a : Anchor)
  | perl (p : PerlClass)

def isMeta (c : Char) : Bool := "\\.+*?()|[]{}^$#&-~".toList.contains c

/-- Characters a backslash may escape to stand for themselves: the meta characters and any
other ASCII character that is neither a letter, a digit, `<` nor `>`. -/
def isEscapable (c : Char) : Bool :=
  isMeta c || (c.toNat < 128 && !c.isAlphanum && c != '<' && c != '>')

def hexValue (c : Char) : Option Nat :=
  if c.isDigit then some (c.toNat - 48)
  else if 'a' ≤ c && c ≤ 'f' then some (c.toNat - 87)
  else if 'A' ≤ c && c ≤ 'F' then some (c.toNat - 55)
  else none

/-- Reads `n` hexadecimal digits into `acc`, passing over blanks after each when spaced. -/
def hexRun (spaced : Bool) : Nat → Nat → List Char → Option (Nat × List Char)
  | 0, acc, cs => some (acc, cs)
  | _ + 1, _, [] => none
  | n + 1, acc, c :: cs =>
    match hexValue c with
    | some d => hexRun spaced n (acc * 16 + d) (Cursor.after spaced cs)
    | none => none

def perlKind? : Char → Option PerlKind
  | 'd' | 'D' => some .digit
  | 's' | 'S' => some .space
  | 'w' | 'W' => some .word
  | _ => none

/-- Reads an escape after its backslash. `\x`, `\u` and `\U` take two, four and eight
hexadecimal digits naming a character. -/
def escape (spaced : Bool) : List Char → Option (Escaped × List Char)
  | [] => none
  | c :: cs =>
    if c.isDigit || c == 'p' || c == 'P' then none
    else if c == 'x' || c == 'u' || c == 'U' then
      let digits := if c == 'x' then 2 else if c == 'u' then 4 else 8
      match Cursor.after spaced cs with
      | [] | '{' :: _ => none
      | ds => do
        let (v, rest) ← hexRun spaced digits 0 ds
        if Nat.isValidChar v then some (.literal ⟨Char.ofNat v, c == 'x'⟩, rest) else none
    else
      match perlKind? c with
      | some kind => some (.perl ⟨kind, c.isUpper⟩, cs)
      | none =>
        if isEscapable c then some (.literal ⟨c, false⟩, cs)
        else
          let lit (d : Char) : Option (Escaped × List Char) := some (.literal ⟨d, false⟩, cs)
          let anchor (a : Anchor) : Option (Escaped × List Char) := some (.anchor a, cs)
          match c with
          | 'a' => lit '\x07'
          | 'f' => lit '\x0c'
          | 't' => lit '\t'
          | 'n' => lit '\n'
          | 'r' => lit '\r'
          | 'v' => lit '\x0b'
          | 'A' => anchor .textStart
          | 'z' => anchor .textEnd
          | 'b' => if cs.head? == some '{' then none else anchor .wordBoundary
          | 'B' => anchor .notWordBoundary
          | '<' => anchor .wordStart
          | '>' => anchor .wordEnd
          | _ => none

/-- Whether a character may stand in a group's name: a letter or `_` first, then letters,
digits, `_`, `.`, `[` and `]`. -/
def isNameChar (first : Bool) (c : Char) : Bool :=
  c == '_' ||
    if first then Text.isAlphabetic c
    else c == '.' || c == '[' || c == ']' || Text.isAlphanumeric c

/-- Reads a group's name and its closing `>`. -/
def groupName (cs : List Char) : Option (String × List Char) :=
  let name := cs.takeWhile (· != '>')
  match cs.drop name.length, name with
  | _, [] => none
  | '>' :: rest, first :: more =>
    if isNameChar true first && more.all (isNameChar false) then some (String.ofList name, rest)
    else none
  | _, _ => none

def flagOf? : Char → Option Flag
  | 'i' => some .caseless
  | 'm' => some .multiLine
  | 's' => some .dotAll
  | 'U' => some .swapGreed
  | 'u' => some .unicode
  | 'R' => some .crlf
  | 'x' => some .spaced
  | _ => none

/-- Reads flags up to the `:` or `)` after them, which stays unread. A flag may appear once,
and so may the `-`, which must have a flag after it. -/
def flagList : Flags → Bool → List Char → Option (Flags × List Char)
  | acc, afterMinus, ':' :: rest => if afterMinus then none else some (acc, ':' :: rest)
  | acc, afterMinus, ')' :: rest => if afterMinus then none else some (acc, ')' :: rest)
  | acc, _, '-' :: rest =>
    if acc.contains .negation || rest.isEmpty then none
    else flagList (acc ++ [.negation]) true rest
  | acc, _, c :: rest =>
    match flagOf? c with
    | some f =>
      if acc.contains (.flag f) || rest.isEmpty then none
      else flagList (acc ++ [.flag f]) false rest
    | none => none
  | _, _, [] => none

def asciiClassNames : List String :=
  ["alnum", "alpha", "ascii", "blank", "cntrl", "digit", "graph", "lower", "print", "punct",
    "space", "upper", "word", "xdigit"]

/-- An ASCII class `[:name:]` or `[:^name:]` at the start, with whether it is negated and what
follows it; `none` when no known class begins there. -/
def asciiClass? (cs : List Char) : Option (Bool × List Char) :=
  match cs with
  | '[' :: ':' :: rest =>
    let (negated, rest) := match rest with
      | '^' :: more => (true, more)
      | more => (false, more)
    let name := rest.takeWhile (· != ':')
    match rest.drop name.length with
    | ':' :: ']' :: after =>
      if asciiClassNames.contains (String.ofList name) then some (negated, after) else none
    | _ => none
  | _ => none

/-- Reads the dashes that open a class, each standing for itself. -/
def leadingDashes (spaced : Bool) (acc : List ClassItem) (cs : List Char) :
    Option (List ClassItem × List Char) :=
  match cs with
  | '-' :: rest =>
    match h : Cursor.after spaced rest with
    | [] => none
    | _ :: _ =>
      have : (Cursor.after spaced rest).length < rest.length + 1 :=
        Nat.lt_succ_of_le (Cursor.length_after_le spaced rest)
      leadingDashes spaced (acc ++ [.literal ⟨'-', false⟩]) (Cursor.after spaced rest)
  | _ => some (acc, cs)
termination_by cs.length

/-- Opens a class after its `[`: whether it is negated, and the items that open it: any `-`,
and then a first `]`, which stand for themselves. -/
def classOpen (cur : Cursor) : Option (Bool × List ClassItem × Cursor) := do
  let cur := cur.skip
  let (negated, rest) ← match cur.rest with
    | [] => none
    | '^' :: more =>
      match Cursor.after cur.spaced more with
      | [] => none
      | after => some (true, after)
    | more => some (false, more)
  let (items, rest) ← leadingDashes cur.spaced [] rest
  let (items, rest) ← match items, rest with
    | [], ']' :: more =>
      match Cursor.after cur.spaced more with
      | [] => none
      | after => some ([.literal ⟨']', false⟩], after)
    | _, _ => some (items, rest)
  pure (negated, items, { cur with rest })

/-- Reads one item of a class: an escape, or a character standing for itself. -/
def classPrimitive (spaced : Bool) : List Char → Option (Escaped × List Char)
  | '\\' :: rest => escape spaced rest
  | c :: rest => some (.literal ⟨c, false⟩, rest)
  | [] => none

/-- A class item from an escape or character; an anchor cannot stand in a class. -/
def Escaped.toItem : Escaped → Option ClassItem
  | .literal l => some (.literal l)
  | .perl p => some (.perl p)
  | .anchor _ => none

/-- Reads a class item, or a range `a-z` between two characters, the first not greater than
the second. A `-` before `]` or `-` begins no range. -/
def classRange (cur : Cursor) : Option (ClassItem × Cursor) := do
  let (first, rest) ← classPrimitive cur.spaced cur.rest
  match Cursor.after cur.spaced rest with
  | [] => none
  | '-' :: after =>
    let next := Cursor.peekNext cur.spaced after
    if next == some ']' || next == some '-' then
      pure (← first.toItem, { cur with rest := '-' :: after })
    else
      match Cursor.after cur.spaced after with
      | [] => none
      | more => do
        let (second, rest) ← classPrimitive cur.spaced more
        match first, second with
        | .literal lo, .literal hi =>
          if lo.char ≤ hi.char then pure (.range lo hi, { cur with rest }) else none
        | _, _ => none
  | rest => pure (← first.toItem, { cur with rest })

/-- Joins the set read so far under a pending operator with the next operand. -/
def combine : Option (ClassOp × ClassSet) → ClassSet → ClassSet
  | none, s => s
  | some (kind, lhs), rhs => .op kind lhs rhs

def classOp? : List Char → Option (ClassOp × List Char)
  | '&' :: '&' :: rest => some (.intersection, rest)
  | '-' :: '-' :: rest => some (.difference, rest)
  | '~' :: '~' :: rest => some (.symmetricDifference, rest)
  | _ => none

/-- Reads a class's items up to its closing `]`, starting from the items its opening gave;
gives its set and the cursor after the `]`. Operators join operands left to right. -/
def classBody : Nat → Option (ClassOp × ClassSet) → List ClassItem → Cursor →
    Option (ClassSet × Cursor)
  | 0, _, _, _ => none
  | fuel + 1, pending, items, cur =>
    let cur := cur.skip
    let operand := ClassSet.item (ClassItem.ofItems items)
    match cur.rest with
    | [] => none
    | ']' :: rest => some (combine pending operand, { cur with rest })
    | '[' :: more =>
      match asciiClass? cur.rest with
      | some (negated, rest) => classBody fuel pending (items ++ [.ascii negated]) { cur with rest }
      | none => do
        let (negated, start, inner) ← classOpen { cur with rest := more }
        let (set, cur) ← classBody fuel none start inner
        classBody fuel pending (items ++ [.bracketed negated set]) cur
    | chars =>
      match classOp? chars with
      | some (kind, rest) => classBody fuel (some (kind, combine pending operand)) [] { cur with rest }
      | none => do
        let (item, cur) ← classRange cur
        classBody fuel pending (items ++ [item]) cur

/-- Reads a primitive item outside a class. -/
def primitive (cur : Cursor) : Option (Node × Cursor) :=
  match cur.rest with
  | '\\' :: rest => do
    let (e, rest) ← escape cur.spaced rest
    let node : Node := match e with
      | .literal l => .literal l
      | .anchor a => .anchor a
      | .perl p => .perl p
    pure (node, { cur with rest })
  | '.' :: rest => some (.dot, { cur with rest })
  | '^' :: rest => some (.anchor .lineStart, { cur with rest })
  | '$' :: rest => some (.anchor .lineEnd, { cur with rest })
  | c :: rest => some (.literal ⟨c, false⟩, { cur with rest })
  | [] => none

/-- Whether a group opens with look-around, which is not supported. -/
def isLookAround : List Char → Bool
  | '?' :: '=' :: _ | '?' :: '!' :: _ | '?' :: '<' :: '=' :: _ | '?' :: '<' :: '!' :: _ => true
  | _ => false

mutual

/-- Reads branches up to an unmatched `)` or the end, which stays unread. `branches` are the
branches done, `items` the current branch's items, last first. -/
def sequence : Nat → List Node → List Node → Cursor → Option (Node × Cursor)
  | 0, _, _, _ => none
  | fuel + 1, branches, items, cur =>
    let cur := cur.skip
    let branch := Node.ofItems items.reverse
    match cur.rest with
    | [] => some (Node.ofBranches (branches ++ [branch]), cur)
    | ')' :: _ => some (Node.ofBranches (branches ++ [branch]), cur)
    | '(' :: rest => do
      let (node, cur) ← group fuel { cur with rest }
      sequence fuel branches (node :: items) cur
    | '|' :: rest => sequence fuel (branches ++ [branch]) [] { cur with rest }
    | '[' :: rest => do
      let (negated, start, inner) ← classOpen { cur with rest }
      let (set, cur) ← classBody fuel none start inner
      sequence fuel branches (.bracketed negated set :: items) cur
    | '?' :: rest | '*' :: rest | '+' :: rest =>
      match items with
      | [] | .flags _ :: _ => none
      | item :: more =>
        let rest := match rest with
          | '?' :: lazy => lazy
          | greedy => greedy
        sequence fuel branches (.repetition item :: more) { cur with rest }
    | '{' :: _ => none
    | _ => do
      let (node, cur) ← primitive cur
      sequence fuel branches (node :: items) cur

/-- Reads a group after its `(`, through its `)`. Flags alone set the enclosing group's flags
from here on; the spacing flag takes effect at once. -/
def group : Nat → Cursor → Option (Node × Cursor)
  | 0, _ => none
  | fuel + 1, cur =>
    let cur := cur.skip
    if isLookAround cur.rest then none
    else
      let body (flags : Option Flags) (names : List String) (rest : List Char) :
          Option (Node × Cursor) := do
        let spaced := ((flags.bind (·.state .spaced)).getD cur.spaced)
        let (node, inner) ← sequence fuel [] [] { rest, spaced, names }
        match inner.rest with
        | ')' :: after => pure (.group flags node, { inner with rest := after, spaced := cur.spaced })
        | _ => none
      match cur.rest with
      | '?' :: 'P' :: '<' :: rest | '?' :: '<' :: rest => do
        let (name, rest) ← groupName rest
        if cur.names.contains name then none else body none (cur.names ++ [name]) rest
      | '?' :: rest => do
        let (flags, rest) ← flagList [] false rest
        match rest with
        | ')' :: after =>
          if flags.isEmpty then none
          else pure (.flags flags, { cur with rest := after, spaced := (flags.state .spaced).getD cur.spaced })
        | _ :: after => body (some flags) cur.names after
        | [] => none
      | rest => body none cur.names rest

end

/-- The syntax tree of a pattern, or `none` when it is malformed. -/
def parse? (s : String) : Option Node :=
  let cs := s.toList
  match sequence (2 * cs.length + 2) [] [] { rest := cs } with
  | some (node, cur) => if cur.rest.isEmpty then some node else none
  | none => none

end SessionSquash.Text.Pattern
