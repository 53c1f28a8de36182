namespace SessionSquash.Text.Pattern

/-- A character written in a pattern. Only a two-digit escape `\xNN` names a byte, which
matters when the pattern matches bytes rather than characters. -/
structure Literal where
  char : Char
  byteEscape : Bool := false
deriving Inhabited

inductive Anchor where
  | lineStart
  | lineEnd
  | textStart
  | textEnd
  | wordBoundary
  | notWordBoundary
  | wordStart
  | wordEnd
deriving DecidableEq, Inhabited

namespace Anchor

/-- Whether the anchor looks at word characters on either side. -/
def looksAtWords : Anchor → Bool
  | .wordBoundary | .notWordBoundary | .wordStart | .wordEnd => true
  | _ => false

end Anchor

inductive PerlKind where
  | digit
  | space
  | word
deriving DecidableEq, Inhabited

/-- A Perl class `\d`, `\s` or `\w`, or its negation `\D`, `\S`, `\W`. -/
structure PerlClass where
  kind : PerlKind
  negated : Bool
deriving Inhabited

inductive Flag where
  | caseless
  | multiLine
  | dotAll
  | swapGreed
  | unicode
  | crlf
  | spaced
deriving DecidableEq, Inhabited

/-- One item of a flag list: a flag, or the `-` that turns the flags after it off. -/
inductive FlagItem where
  | negation
  | flag (f : Flag)
deriving DecidableEq, Inhabited

/-- Flags as written, such as `i-u` in `(?i-u)`. -/
abbrev Flags := List FlagItem

namespace Flags

/-- Whether the flags turn `f` on or off, if they mention it. -/
def state (fs : Flags) (f : Flag) : Option Bool :=
  match fs.idxOf? (.flag f) with
  | none => none
  | some i => some !((fs.take i).contains .negation)

end Flags

inductive ClassOp where
  | intersection
  | difference
  | symmetricDifference
deriving DecidableEq, Inhabited

mutual

/-- A regular expression. -/
inductive Node where
  | empty
  /-- Flags that hold from here to the end of the enclosing group. -/
  | flags (fs : Flags)
  | literal (l : Literal)
  | dot
  | anchor (a : Anchor)
  | perl (p : PerlClass)
  | bracketed (negated : Bool) (set : ClassSet)
  | repetition (body : Node)
  /-- A group, with the flags it sets for its body when it sets any. -/
  | group (fs : Option Flags) (body : Node)
  | alternation (branches : List Node)
  | sequence (items : List Node)

/-- The inside of a bracketed class. -/
inductive ClassSet where
  | item (i : ClassItem)
  | op (kind : ClassOp) (lhs rhs : ClassSet)

inductive ClassItem where
  | empty
  | literal (l : Literal)
  | range (lo hi : Literal)
  /-- An ASCII class `[:name:]`, or its negation `[:^name:]`. -/
  | ascii (negated : Bool)
  | perl (p : PerlClass)
  | bracketed (negated : Bool) (set : ClassSet)
  | union (items : List ClassItem)

end

/-- The sequence of items read between two bars: nothing, one item, or a sequence. -/
def Node.ofItems : List Node → Node
  | [] => .empty
  | [n] => n
  | ns => .sequence ns

/-- The branches read between two parentheses: one branch, or an alternation. -/
def Node.ofBranches : List Node → Node
  | [n] => n
  | ns => .alternation ns

/-- The items of a union: nothing, one item, or a union. -/
def ClassItem.ofItems : List ClassItem → ClassItem
  | [] => .empty
  | [i] => i
  | is => .union is

mutual

/-- How many classes, repetitions, groups, alternations and sequences nest at the deepest. -/
def Node.depth : Node → Nat
  | .bracketed _ set => set.depth + 1
  | .repetition body => body.depth + 1
  | .group _ body => body.depth + 1
  | .alternation branches => Node.maxDepth branches + 1
  | .sequence items => Node.maxDepth items + 1
  | _ => 0

def Node.maxDepth : List Node → Nat
  | [] => 0
  | n :: ns => max n.depth (Node.maxDepth ns)

def ClassSet.depth : ClassSet → Nat
  | .item i => i.depth
  | .op _ lhs rhs => max lhs.depth rhs.depth + 1

def ClassItem.depth : ClassItem → Nat
  | .bracketed _ set => set.depth + 1
  | .union items => ClassItem.maxDepth items + 1
  | _ => 0

def ClassItem.maxDepth : List ClassItem → Nat
  | [] => 0
  | i :: is => max i.depth (ClassItem.maxDepth is)

end

/-- The deepest nesting the matcher accepts. -/
def nestLimit : Nat := 250

end SessionSquash.Text.Pattern
