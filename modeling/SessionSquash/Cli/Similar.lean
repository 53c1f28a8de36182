import SessionSquash.Binary.Float

namespace SessionSquash.Cli

/-- Marks the characters of `a` and of `b` that the Jaro window pairs up. -/
def jaroMatches (a b : Array Char) : Array Bool × Array Bool :=
  let window := max a.size b.size / 2 - 1
  (List.range a.size).foldl (fun (marked : Array Bool × Array Bool) i =>
    let lo := i - window
    let hi := min b.size (i + window + 1)
    let c := a.getD i ' '
    match (List.range' lo (hi - lo)).find? (fun j => b.getD j ' ' == c && !marked.2.getD j true) with
    | some j => (marked.1.set! i true, marked.2.set! j true)
    | none => marked)
    (Array.replicate a.size false, Array.replicate b.size false)

/-- The characters a mask keeps, in order. -/
def kept (cs : Array Char) (mask : Array Bool) : List Char :=
  (cs.toList.zip mask.toList).filterMap fun (c, keep) => if keep then some c else none

/-- The Jaro similarity of two words, rounded as double precision arithmetic
rounds each step. -/
def jaro (x y : String) : Binary64 :=
  let a := x.toList.toArray
  let b := y.toList.toArray
  if a.size == 0 && b.size == 0 then Binary64.ofNat 1
  else if a.size == 0 || b.size == 0 then Binary64.zero
  else
    let (ma, mb) := jaroMatches a b
    let left := kept a ma
    let right := kept b mb
    let m := left.length
    let t := ((left.zip right).filter fun (p, q) => p != q).length / 2
    if m == 0 then Binary64.zero
    else
      let ratio (n d : Nat) := Binary64.div (Binary64.ofNat n) (Binary64.ofNat d)
      let total := Binary64.add (Binary64.add (ratio m a.size) (ratio m b.size)) (ratio (m - t) m)
      Binary64.div total (Binary64.ofNat 3)

/-- The candidates similar to a word, least similar first; equally similar
ones keep their order. -/
def similarWords (word : String) (candidates : List String) : List String :=
  let threshold := Binary64.ofRat false 7 10
  let scored := (candidates.map fun c => (jaro word c, c)).filter fun (s, _) => threshold.lt s
  (scored.mergeSort fun p q => !q.1.lt p.1).map Prod.snd

/-- The most similar candidate, the last of equals. -/
def closestWord? (word : String) (candidates : List String) : Option String :=
  (similarWords word candidates).getLast?

end SessionSquash.Cli
