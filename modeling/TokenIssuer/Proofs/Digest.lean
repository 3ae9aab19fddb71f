import TokenIssuer.Crypto.Argon2

/-! The lengths of digests. -/

namespace TokenIssuer.Crypto

@[simp] theorem length_littleEndian (width n : Nat) : (littleEndian width n).length = width := by
  induction width generalizing n with
  | zero => rfl
  | succ w ih => rw [littleEndian, List.length_cons, ih]

theorem length_wordBytes (words : Array UInt64) :
    (wordBytes words).length = 8 * words.size := by
  have hlist (ws : List UInt64) :
      (ws.flatMap fun w => littleEndian 8 w.toNat).length = 8 * ws.length := by
    induction ws with
    | nil => rfl
    | cons w ws ih =>
      rw [List.flatMap_cons, List.length_append, ih, length_littleEndian, List.length_cons]
      omega
  exact hlist words.toList

namespace Blake2b

theorem size_mix (v : Array UInt64) (a b c d : Nat) (x y : UInt64) :
    (mix v a b c d x y).size = v.size := by
  simp only [mix, Array.size_setIfInBounds]

theorem size_round (m v : Array UInt64) (order : List Nat) : (round m v order).size = v.size := by
  simp only [round, size_mix]

theorem size_rounds (m : Array UInt64) (orders : List (List Nat)) (v : Array UInt64) :
    (orders.foldl (round m) v).size = v.size := by
  induction orders generalizing v with
  | nil => rfl
  | cons order orders ih => rw [List.foldl_cons, ih, size_round]

/-- A block taken into a state of eight words leaves eight words. -/
theorem size_compress {h : Array UInt64} (hs : h.size = 8) (block : List UInt8) (count : Nat)
    (last : Bool) : (compress h block count last).size = 8 := by
  unfold compress
  simp only [Array.size_map, Array.size_zip, Array.size_extract, size_rounds, Array.size_append,
    Array.size_modify, hs]
  rfl

theorem size_absorb {h : Array UInt64} (hs : h.size = 8) (fuel count : Nat) (data : List UInt8) :
    (absorb fuel h count data).size = 8 := by
  induction fuel generalizing h count data with
  | zero => exact hs
  | succ fuel ih =>
    unfold absorb
    split
    split
    · exact size_compress hs _ _ _
    · exact ih (size_compress hs _ _ _) _ _

theorem length_hash {size : Nat} (h : size ≤ 64) (data : List UInt8) :
    (hash size data).length = size := by
  unfold hash
  rw [List.length_take, length_wordBytes, size_absorb]
  · omega
  · rw [Array.size_modify]; rfl

end Blake2b

/-- A tag of at most sixty-four bytes has the length that was asked for. -/
theorem Argon2.length_hash {size : Nat} (h : size ≤ 64) (p : Parameters)
    (secret salt : List UInt8) : (Argon2.hash p size secret salt).length = size := by
  unfold Argon2.hash longHash
  rw [if_pos h]
  exact Blake2b.length_hash h _

end TokenIssuer.Crypto
