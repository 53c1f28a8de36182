import SessionSquash.Text.Pattern.Parse

namespace SessionSquash.Text

namespace Pattern

/-- How the rest of a group reads: by characters or by bytes, and whether case matters. -/
structure Mode where
  unicode : Bool := true
  caseless : Bool := false
deriving Inhabited

namespace Mode

/-- The mode after flags. -/
def set (m : Mode) (fs : Flags) : Mode :=
  { unicode := (fs.state .unicode).getD m.unicode,
    caseless := (fs.state .caseless).getD m.caseless }

end Mode

mutual

/-- Whether the matcher can build a class's members in a mode. -/
def ClassSet.fits (m : Mode) : ClassSet → Bool
  | .item i => i.fits m
  | .op _ lhs rhs => lhs.fits m && rhs.fits m

def ClassItem.fits (m : Mode) : ClassItem → Bool
  | .empty => true
  | .literal l => if m.unicode then !m.caseless else l.char.toNat < 128
  | .range lo hi =>
    if m.unicode then !m.caseless else lo.char.toNat < 128 && hi.char.toNat < 128
  | .ascii negated => if m.unicode then !m.caseless else !negated
  | .perl p => !m.unicode && !p.negated
  | .bracketed negated set => (m.unicode || !negated) && set.fits m
  | .union items => ClassItem.allFit m items

def ClassItem.allFit (m : Mode) : List ClassItem → Bool
  | [] => true
  | i :: is => i.fits m && ClassItem.allFit m is

end

mutual

/-- Whether the matcher can build a node read in a mode, with the mode that holds after it:
flags change the mode for what follows them in their group. -/
def Node.compile : Mode → Node → Option Mode
  | m, .empty => some m
  | m, .flags fs => some (m.set fs)
  | m, .literal l =>
    if m.unicode then (if m.caseless then none else some m)
    else if l.byteEscape && l.char.toNat ≥ 128 then none
    else some m
  | m, .dot => if m.unicode then some m else none
  | m, .anchor a => if m.unicode && a.looksAtWords then none else some m
  | m, .perl p => if m.unicode || p.negated then none else some m
  | m, .bracketed negated set =>
    if (m.unicode || !negated) && set.fits m then some m else none
  | m, .repetition body => body.compile m
  | m, .group fs body => (body.compile ((fs.map m.set).getD m)).map fun _ => m
  | m, .alternation branches => Node.compileAll m branches
  | m, .sequence items => Node.compileAll m items

def Node.compileAll : Mode → List Node → Option Mode
  | m, [] => some m
  | m, n :: ns => (n.compile m).bind fun m => Node.compileAll m ns

end

end Pattern

/-- Whether the text is a pattern the matcher accepts. -/
def isWellFormedPattern (s : String) : Bool :=
  match Pattern.parse? s with
  | some node => node.depth ≤ Pattern.nestLimit && (node.compile {}).isSome
  | none => false

end SessionSquash.Text
