namespace SessionSquash.Blake3

/-- The initial chaining value, shared with SHA-256. -/
def iv : Array UInt32 :=
  #[0x6A09E667, 0xBB67AE85, 0x3C6EF372, 0xA54FF53A, 0x510E527F, 0x9B05688C, 0x1F83D9AB, 0x5BE0CD19]

/-- The message word order of the next round, as positions in the current one. -/
def permutation : List Nat := [2, 6, 3, 10, 7, 0, 4, 13, 1, 11, 12, 5, 9, 14, 15, 8]

def chunkStart : UInt32 := 1
def chunkEnd : UInt32 := 2
def parentFlag : UInt32 := 4
def rootFlag : UInt32 := 8

def blockLength : Nat := 64
def chunkLength : Nat := 1024

def rotateRight (x : UInt32) (n : UInt32) : UInt32 := (x >>> n) ||| (x <<< (32 - n))

def word (s : Array UInt32) (i : Nat) : UInt32 := s.getD i 0

/-- The quarter-round mixing columns `a b c d` of the state with message words `mx my`. -/
def mix (s : Array UInt32) (a b c d : Nat) (mx my : UInt32) : Array UInt32 :=
  let va := word s a + word s b + mx
  let vd := rotateRight (word s d ^^^ va) 16
  let vc := word s c + vd
  let vb := rotateRight (word s b ^^^ vc) 12
  let va := va + vb + my
  let vd := rotateRight (vd ^^^ va) 8
  let vc := vc + vd
  let vb := rotateRight (vb ^^^ vc) 7
  ((((s.setIfInBounds a va).setIfInBounds b vb).setIfInBounds c vc).setIfInBounds d vd)

/-- One round: the four columns, then the four diagonals. -/
def round (s : Array UInt32) (m : Array UInt32) : Array UInt32 :=
  let s := mix s 0 4 8 12 (word m 0) (word m 1)
  let s := mix s 1 5 9 13 (word m 2) (word m 3)
  let s := mix s 2 6 10 14 (word m 4) (word m 5)
  let s := mix s 3 7 11 15 (word m 6) (word m 7)
  let s := mix s 0 5 10 15 (word m 8) (word m 9)
  let s := mix s 1 6 11 12 (word m 10) (word m 11)
  let s := mix s 2 7 8 13 (word m 12) (word m 13)
  mix s 3 4 9 14 (word m 14) (word m 15)

def permute (m : Array UInt32) : Array UInt32 := (permutation.map (word m ·)).toArray

/-- Seven rounds with the message permuted between them. -/
def rounds : Nat → Array UInt32 → Array UInt32 → Array UInt32
  | 0, s, _ => s
  | n + 1, s, m =>
    let s := round s m
    if n = 0 then s else rounds n s (permute m)

/-- The compression function; its first eight words are the next chaining value and the
root digest. -/
def compress (cv : Array UInt32) (block : Array UInt32) (counter : UInt64) (len : UInt32)
    (flags : UInt32) : Array UInt32 :=
  let s : Array UInt32 := cv ++ iv.extract 0 4 ++
    #[counter.toUInt32, (counter >>> 32).toUInt32, len, flags]
  let s := rounds 7 s block
  (List.range 8).toArray.map fun i => word s i ^^^ word s (i + 8)

/-- Little-endian words of a block, padded with zeros to 64 bytes. -/
def blockWords (bytes : List UInt8) : Array UInt32 :=
  let padded := bytes ++ List.replicate (blockLength - bytes.length) 0
  (List.range 16).toArray.map fun i =>
    let b := fun j => (padded.getD (4 * i + j) 0).toUInt32
    b 0 ||| (b 1 <<< 8) ||| (b 2 <<< 16) ||| (b 3 <<< 24)

/-- A compression not yet run, held back until it is known whether it is the root. -/
structure Pending where
  cv : Array UInt32
  block : Array UInt32
  counter : UInt64
  len : UInt32
  flags : UInt32

def Pending.chainingValue (p : Pending) : Array UInt32 := compress p.cv p.block p.counter p.len p.flags

def Pending.digest (p : Pending) : Array UInt32 :=
  compress p.cv p.block p.counter p.len (p.flags ||| rootFlag)

/-- Splits a list into pieces of `n` elements; the last may be shorter. -/
def pieces (n : Nat) (xs : List UInt8) (fuel : Nat) : List (List UInt8) :=
  match fuel with
  | 0 => []
  | fuel + 1 => if xs.length ≤ n then [xs] else xs.take n :: pieces n (xs.drop n) fuel

/-- The chunk's last block, with the chaining value of the blocks before it folded in. -/
def chunkPending (bytes : List UInt8) (counter : Nat) : Pending :=
  let blocks := pieces blockLength bytes bytes.length
  let start (i : Nat) : UInt32 := if i = 0 then chunkStart else 0
  let init : Array UInt32 × Nat := (iv, 0)
  let (cv, count) := (blocks.dropLast).foldl
    (fun (acc : Array UInt32 × Nat) b =>
      (compress acc.1 (blockWords b) counter.toUInt64 b.length.toUInt32 (start acc.2), acc.2 + 1))
    init
  let last := blocks.getLastD []
  { cv, block := blockWords last, counter := counter.toUInt64, len := last.length.toUInt32
    flags := start count ||| chunkEnd }

def parent (left right : Array UInt32) : Pending :=
  { cv := iv, block := left ++ right, counter := 0, len := blockLength.toUInt32, flags := parentFlag }

/-- Pushes a finished chunk's chaining value, merging complete subtrees: one merge per trailing
zero bit of the number of chunks finished so far. -/
def pushChunk (stack : List (Array UInt32)) (cv : Array UInt32) (total : Nat) :
    List (Array UInt32) :=
  match stack, total with
  | top :: rest, total =>
    if total % 2 = 0 ∧ total > 0 then pushChunk rest (parent top cv).chainingValue (total / 2)
    else cv :: top :: rest
  | [], _ => [cv]

/-- The 32-byte digest. -/
def hash (bytes : List UInt8) : List UInt8 :=
  let chunks := pieces chunkLength bytes bytes.length
  let chunks := if chunks.isEmpty then [[]] else chunks
  let indexed := chunks.zipIdx
  let stack := (indexed.dropLast).foldl
    (fun stack (c, i) => pushChunk stack (chunkPending c i).chainingValue (i + 1)) []
  let (lastChunk, lastIndex) := indexed.getLastD ([], 0)
  let root := stack.foldl (fun p left => parent left p.chainingValue) (chunkPending lastChunk lastIndex)
  root.digest.toList.flatMap fun (w : UInt32) =>
    [w.toUInt8, (w >>> 8).toUInt8, (w >>> 16).toUInt8, (w >>> 24).toUInt8]

def hexDigit (n : Nat) : Char := if n < 10 then Char.ofNat (48 + n) else Char.ofNat (87 + n)

/-- Lowercase hexadecimal of a byte string. -/
def hex (bytes : List UInt8) : String :=
  String.ofList (bytes.flatMap fun b => [hexDigit (b.toNat / 16), hexDigit (b.toNat % 16)])

end SessionSquash.Blake3
