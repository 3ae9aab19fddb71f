import TokenIssuer.Crypto.Blake2b

/-!
The memory-hard password function Argon2 in its three variants. The memory is a table of blocks,
`lanes` rows of `columns` blocks, filled in four slices per pass; each block is made from the one
before it in its lane and from a block chosen by a pseudorandom word.
-/

namespace TokenIssuer.Crypto.Argon2

/-- How the blocks to refer to are chosen. -/
inductive Variant where
  | dependent
  | independent
  /-- By a counter in the first half of the first pass, then by the contents of the memory. -/
  | hybrid
  deriving DecidableEq, Repr, Inhabited

/-- The number a variant has in the input of the first hash. -/
def Variant.code : Variant → Nat
  | .dependent => 0
  | .independent => 1
  | .hybrid => 2

/-- What the work depends on besides the secret and the salt. -/
structure Parameters where
  variant : Variant
  /-- The number of the version. In version 16 later passes overwrite the blocks, in all others they
  add to them. -/
  version : Nat
  passes : Nat
  memory : Nat
  lanes : Nat
  deriving DecidableEq, Repr

/-- The costs are ones that there are tags for: the memory and the passes are words of 32 bits, each
lane has eight blocks or more, and the number of lanes is one of 24 bits. -/
def Parameters.inLimits (p : Parameters) : Bool :=
  8 * p.lanes ≤ p.memory && p.memory < 0x100000000 && 1 ≤ p.passes && p.passes < 0x100000000 &&
    1 ≤ p.lanes && p.lanes < 0x1000000

def minSalt : Nat := 8

abbrev Block := Array UInt64

def zeroBlock : Block := Array.replicate 128 0

def xorBlock (x y : Block) : Block := x.zipWith (· ^^^ ·) y

/-- The sum of two words and twice the product of their lower halves. -/
def addMul (x y : UInt64) : UInt64 := x + y + 2 * (x &&& 0xFFFFFFFF) * (y &&& 0xFFFFFFFF)

def mix (v : Block) (a b c d : Nat) : Block :=
  let va := addMul (v.getD a 0) (v.getD b 0)
  let vd := rotateRight (v.getD d 0 ^^^ va) 32
  let vc := addMul (v.getD c 0) vd
  let vb := rotateRight (v.getD b 0 ^^^ vc) 24
  let va := addMul va vb
  let vd := rotateRight (vd ^^^ va) 16
  let vc := addMul vc vd
  let vb := rotateRight (vb ^^^ vc) 63
  (((v.setIfInBounds a va).setIfInBounds b vb).setIfInBounds c vc).setIfInBounds d vd

/-- Mixes the sixteen words that stand at `place 0` to `place 15`: the columns, then the diagonals.
-/
def permute (place : Nat → Nat) (v : Block) : Block :=
  let v := mix v (place 0) (place 4) (place 8) (place 12)
  let v := mix v (place 1) (place 5) (place 9) (place 13)
  let v := mix v (place 2) (place 6) (place 10) (place 14)
  let v := mix v (place 3) (place 7) (place 11) (place 15)
  let v := mix v (place 0) (place 5) (place 10) (place 15)
  let v := mix v (place 1) (place 6) (place 11) (place 12)
  let v := mix v (place 2) (place 7) (place 8) (place 13)
  mix v (place 3) (place 4) (place 9) (place 14)

/-- Makes one block of two: the sum, mixed along its rows and its columns, is added to itself. -/
def compress (x y : Block) : Block :=
  let r := xorBlock x y
  let rows := (List.range 8).foldl (fun v i => permute (fun k => 16 * i + k) v) r
  let z := (List.range 8).foldl (fun v i => permute (fun k => 2 * i + 16 * (k / 2) + k % 2) v) rows
  xorBlock z r

/-- The pieces of a long digest: half of each hash in a chain, and the whole last one. -/
def chain : (count : Nat) → (size : Nat) → List UInt8 → List UInt8
  | 0, size, v => Blake2b.hash size v
  | n + 1, size, v =>
    let next := Blake2b.hash 64 v
    next.take 32 ++ chain n (size - 32) next

def longHash (size : Nat) (data : List UInt8) : List UInt8 :=
  let input := littleEndian 4 size ++ data
  if size ≤ 64 then Blake2b.hash size input else chain ((size + 31) / 32 - 2) size input

def measured (bs : List UInt8) : List UInt8 := littleEndian 4 bs.length ++ bs

/-- The first hash, of all parameters and inputs; there is neither a key nor associated data. -/
def seed (p : Parameters) (size : Nat) (secret salt : List UInt8) : List UInt8 :=
  Blake2b.hash 64 (littleEndian 4 p.lanes ++ littleEndian 4 size ++ littleEndian 4 p.memory ++
    littleEndian 4 p.passes ++ littleEndian 4 p.version ++ littleEndian 4 p.variant.code ++
    measured secret ++ measured salt ++ measured [] ++ measured [])

/-- The number of blocks of a lane in one slice. -/
def Parameters.segment (p : Parameters) : Nat := p.memory / (4 * p.lanes)

def Parameters.columns (p : Parameters) : Nat := 4 * p.segment

def ofBytes (bs : List UInt8) : Block := (bytesWords 128 bs).toArray

/-- The memory before the first pass: two blocks in each lane. -/
def start (p : Parameters) (h0 : List UInt8) : Array Block :=
  (List.range p.lanes).foldl
    (fun memory lane =>
      let first (column : Nat) :=
        ofBytes (longHash 1024 (h0 ++ littleEndian 4 column ++ littleEndian 4 lane))
      (memory.setIfInBounds (lane * p.columns) (first 0)).setIfInBounds
        (lane * p.columns + 1) (first 1))
    (Array.replicate (p.lanes * p.columns) zeroBlock)

structure Place where
  pass : Nat
  slice : Nat
  lane : Nat

/-- The choice of blocks follows a counter at this place. -/
def counted (p : Parameters) (place : Place) : Bool :=
  match p.variant with
  | .dependent => false
  | .independent => true
  | .hybrid => place.pass = 0 && place.slice < 2

/-- The pseudorandom words of a segment whose choices follow a counter: 128 for each count. -/
def counterWords (p : Parameters) (place : Place) : Array UInt64 :=
  (List.range ((p.segment + 127) / 128)).foldl
    (fun words i =>
      let input :=
        [place.pass, place.lane, place.slice, p.lanes * p.columns, p.passes, p.variant.code,
          i + 1].map UInt64.ofNat
      let block := (input ++ List.replicate 121 0).toArray
      words ++ compress zeroBlock (compress zeroBlock block))
    #[]

/-- The place in the table of the block that the word `j` refers to, for the block `index` of a
segment. The block just before is never chosen this way, nor one not yet filled. -/
def reference (p : Parameters) (place : Place) (index : Nat) (j : UInt64) : Nat :=
  -- In the first slice of all no other lane has any block yet.
  let lane :=
    if place.pass = 0 ∧ place.slice = 0 then place.lane else j.toNat / 0x100000000 % p.lanes
  let finished := if place.pass = 0 then place.slice * p.segment else p.columns - p.segment
  let area :=
    if lane = place.lane then finished + index - 1
    else if index = 0 then finished - 1
    else finished
  -- The square of the lower half prefers the blocks that were filled last.
  let low := j.toNat % 0x100000000
  let x := low * low / 0x100000000
  let offset := area - 1 - area * x / 0x100000000
  -- From the second pass on the oldest block is the first one of the next slice.
  let first := if place.pass = 0 ∨ place.slice = 3 then 0 else (place.slice + 1) * p.segment
  lane * p.columns + (first + offset) % p.columns

def fillBlock (p : Parameters) (place : Place) (words : Array UInt64) (memory : Array Block)
    (index : Nat) : Array Block :=
  let column := place.slice * p.segment + index
  let row := place.lane * p.columns
  let previous := memory.getD (row + (if column = 0 then p.columns - 1 else column - 1)) zeroBlock
  let j := if counted p place then words.getD index 0 else previous.getD 0 0
  let block := compress previous (memory.getD (reference p place index j) zeroBlock)
  let added := place.pass ≠ 0 ∧ p.version ≠ 16
  let block := if added then xorBlock block (memory.getD (row + column) zeroBlock) else block
  memory.setIfInBounds (row + column) block

/-- Fills a segment. The first two blocks of each lane are there before the first pass. -/
def fillSegment (p : Parameters) (memory : Array Block) (place : Place) : Array Block :=
  let words := if counted p place then counterWords p place else #[]
  let skipped := if place.pass = 0 ∧ place.slice = 0 then 2 else 0
  ((List.range p.segment).drop skipped).foldl (fillBlock p place words) memory

def places (p : Parameters) : List Place :=
  (List.range p.passes).flatMap fun pass =>
    (List.range 4).flatMap fun slice => (List.range p.lanes).map fun lane => ⟨pass, slice, lane⟩

/-- The tag of `size` bytes for a secret and a salt. -/
def hash (p : Parameters) (size : Nat) (secret salt : List UInt8) : List UInt8 :=
  let memory := (places p).foldl (fillSegment p) (start p (seed p size secret salt))
  let last := (List.range p.lanes).foldl
    (fun sum lane => xorBlock sum (memory.getD ((lane + 1) * p.columns - 1) zeroBlock)) zeroBlock
  longHash size (wordBytes last)

end TokenIssuer.Crypto.Argon2
