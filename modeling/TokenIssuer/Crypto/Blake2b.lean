/-!
BLAKE2b without key: a digest of up to sixty-four bytes.
-/

namespace TokenIssuer.Crypto

def littleEndian : (width : Nat) → Nat → List UInt8
  | 0, _ => []
  | w + 1, n => UInt8.ofNat (n % 256) :: littleEndian w (n / 256)

def ofLittleEndian (bs : List UInt8) : Nat := bs.foldr (fun b n => b.toNat + 256 * n) 0

def wordBytes (words : Array UInt64) : List UInt8 :=
  words.toList.flatMap fun w => littleEndian 8 w.toNat

/-- `count` words of eight bytes, with zeros for bytes that are not there. -/
def bytesWords : (count : Nat) → List UInt8 → List UInt64
  | 0, _ => []
  | n + 1, bs => UInt64.ofNat (ofLittleEndian (bs.take 8)) :: bytesWords n (bs.drop 8)

def rotateRight (x : UInt64) (n : UInt64) : UInt64 := (x >>> n) ||| (x <<< (64 - n))

namespace Blake2b

def initial : Array UInt64 :=
  #[0x6a09e667f3bcc908, 0xbb67ae8584caa73b, 0x3c6ef372fe94f82b, 0xa54ff53a5f1d36f1,
    0x510e527fade682d1, 0x9b05688c2b3e6c1f, 0x1f83d9abfb41bd6b, 0x5be0cd19137e2179]

/-- The order in which the words of a block are used, for each round. -/
def schedule : List (List Nat) :=
  [[0, 1, 2, 3, 4, 5, 6, 7, 8, 9, 10, 11, 12, 13, 14, 15],
   [14, 10, 4, 8, 9, 15, 13, 6, 1, 12, 0, 2, 11, 7, 5, 3],
   [11, 8, 12, 0, 5, 2, 15, 13, 10, 14, 3, 6, 7, 1, 9, 4],
   [7, 9, 3, 1, 13, 12, 11, 14, 2, 6, 5, 10, 4, 0, 15, 8],
   [9, 0, 5, 7, 2, 4, 10, 15, 14, 1, 11, 12, 6, 8, 3, 13],
   [2, 12, 6, 10, 0, 11, 8, 3, 4, 13, 7, 5, 15, 14, 1, 9],
   [12, 5, 1, 15, 14, 13, 4, 10, 0, 7, 6, 3, 9, 2, 8, 11],
   [13, 11, 7, 14, 12, 1, 3, 9, 5, 0, 15, 4, 8, 6, 2, 10],
   [6, 15, 14, 9, 11, 3, 0, 8, 12, 2, 13, 7, 1, 4, 10, 5],
   [10, 2, 8, 4, 7, 6, 1, 5, 15, 11, 9, 14, 3, 12, 13, 0],
   [0, 1, 2, 3, 4, 5, 6, 7, 8, 9, 10, 11, 12, 13, 14, 15],
   [14, 10, 4, 8, 9, 15, 13, 6, 1, 12, 0, 2, 11, 7, 5, 3]]

/-- Mixes the words `x` and `y` of the block into four words of the state. -/
def mix (v : Array UInt64) (a b c d : Nat) (x y : UInt64) : Array UInt64 :=
  let va := v.getD a 0 + v.getD b 0 + x
  let vd := rotateRight (v.getD d 0 ^^^ va) 32
  let vc := v.getD c 0 + vd
  let vb := rotateRight (v.getD b 0 ^^^ vc) 24
  let va := va + vb + y
  let vd := rotateRight (vd ^^^ va) 16
  let vc := vc + vd
  let vb := rotateRight (vb ^^^ vc) 63
  (((v.setIfInBounds a va).setIfInBounds b vb).setIfInBounds c vc).setIfInBounds d vd

/-- One round: the columns, then the diagonals. -/
def round (m : Array UInt64) (v : Array UInt64) (order : List Nat) : Array UInt64 :=
  let w (i : Nat) : UInt64 := m.getD (order.getD i 0) 0
  let v := mix v 0 4 8 12 (w 0) (w 1)
  let v := mix v 1 5 9 13 (w 2) (w 3)
  let v := mix v 2 6 10 14 (w 4) (w 5)
  let v := mix v 3 7 11 15 (w 6) (w 7)
  let v := mix v 0 5 10 15 (w 8) (w 9)
  let v := mix v 1 6 11 12 (w 10) (w 11)
  let v := mix v 2 7 8 13 (w 12) (w 13)
  mix v 3 4 9 14 (w 14) (w 15)

/-- Takes a block of 128 bytes into the state, `count` being the number of bytes up to its end. -/
def compress (h : Array UInt64) (block : List UInt8) (count : Nat) (last : Bool) : Array UInt64 :=
  let m := (bytesWords 16 block).toArray
  let tail := initial
    |>.modify 4 (· ^^^ UInt64.ofNat count)
    |>.modify 5 (· ^^^ UInt64.ofNat (count / 0x10000000000000000))
    |>.modify 6 fun w => if last then ~~~w else w
  let v := schedule.foldl (round m) (h ++ tail)
  (h.zip ((v.extract 0 8).zip (v.extract 8 16))).map fun p => p.1 ^^^ p.2.1 ^^^ p.2.2

/-- Takes the rest of the data into the state; the last block is filled up with zeros. -/
def absorb : (fuel : Nat) → Array UInt64 → (count : Nat) → List UInt8 → Array UInt64
  | 0, h, _, _ => h
  | fuel + 1, h, count, data =>
    let (block, rest) := data.splitAt 128
    if rest.isEmpty then compress h block (count + block.length) true
    else absorb fuel (compress h block (count + 128) false) (count + 128) rest

def hash (size : Nat) (data : List UInt8) : List UInt8 :=
  let h := initial.modify 0 (· ^^^ UInt64.ofNat (0x01010000 + size))
  (wordBytes (absorb (data.length / 128 + 1) h 0 data)).take size

end Blake2b

end TokenIssuer.Crypto
