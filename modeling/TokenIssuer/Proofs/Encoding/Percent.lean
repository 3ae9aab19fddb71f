import TokenIssuer.Encoding.Percent
import TokenIssuer.Proofs.Hex
import TokenIssuer.Proofs.Utf8.Canonical

/-! The form encoding of texts, however it is spelled, is read back. -/

namespace TokenIssuer.Percent

open Text

/-- The text writes the bytes, each as a percent sign before two hexadecimal digits of either
case. -/
inductive SpellsBytes : List Char → List UInt8 → Prop where
  | nil : SpellsBytes [] []
  | byte {a b : Char} {n : UInt8} {s : List Char} {bs : List UInt8}
      (high : hexValue? a = some (n.toNat / 16)) (low : hexValue? b = some (n.toNat % 16))
      (rest : SpellsBytes s bs) : SpellsBytes ('%' :: a :: b :: s) (n :: bs)

/-- The first text is a form encoding of the second: of every character the bytes in UTF-8 are
spelled out, or it stands as it is, or it is a space and a plus sign stands for it. -/
inductive Spells : List Char → List Char → Prop where
  | nil : Spells [] []
  | plain {c : Char} {s t : List Char} (percent : c ≠ '%') (plus : c ≠ '+') (rest : Spells s t) :
      Spells (c :: s) (c :: t)
  | space {s t : List Char} (rest : Spells s t) : Spells ('+' :: s) (' ' :: t)
  | spelled {c : Char} {p s t : List Char} (bytes : SpellsBytes p (String.utf8EncodeChar c))
      (rest : Spells s t) : Spells (p ++ s) (c :: t)

theorem bytes_cons {c : Char} (h : c ≠ '%') (s : List Char) :
    bytes (c :: s) = String.utf8EncodeChar c ++ bytes s := by
  rw [bytes]
  rintro a b cs he -
  exact h he

theorem bytes_byte {a b : Char} {n : UInt8} (high : hexValue? a = some (n.toNat / 16))
    (low : hexValue? b = some (n.toNat % 16)) (s : List Char) :
    bytes ('%' :: a :: b :: s) = n :: bytes s := by
  have hn : 16 * (n.toNat / 16) + n.toNat % 16 = n.toNat := by omega
  rw [bytes, high, low]
  simp only
  rw [hn, UInt8.ofNat_toNat]

theorem plusToSpace_append (s t : List Char) :
    plusToSpace (s ++ t) = plusToSpace s ++ plusToSpace t := List.map_append

/-- There is no plus sign in what spells bytes. -/
theorem plusToSpace_of_spellsBytes {p : List Char} {bs : List UInt8} (h : SpellsBytes p bs) :
    plusToSpace p = p := by
  have hdigit {c : Char} {v : Nat} (hc : hexValue? c = some v) : c ≠ '+' := by
    have hne := ne_of_hexValue? (Option.isSome_iff_exists.mpr ⟨v, hc⟩)
    rintro rfl
    exact hne (by decide)
  induction h with
  | nil => rfl
  | @byte a b n s bs high low _ ih =>
    unfold plusToSpace at ih ⊢
    rw [List.map_cons, List.map_cons, List.map_cons, ih, if_neg (by decide), if_neg (hdigit high),
      if_neg (hdigit low)]

theorem bytes_of_spellsBytes {p : List Char} {bs : List UInt8} (h : SpellsBytes p bs)
    (s : List Char) : bytes (p ++ s) = bs ++ bytes s := by
  induction h with
  | nil => rfl
  | byte high low _ ih =>
    simp only [List.cons_append]
    rw [bytes_byte high low, ih]

/-- The bytes of what spells a text are those of the text. -/
theorem bytes_of_spells {s t : List Char} (h : Spells s t) :
    bytes (plusToSpace s) = Utf8.encode t := by
  have hencode (c : Char) (t : List Char) :
      Utf8.encode (c :: t) = String.utf8EncodeChar c ++ Utf8.encode t := rfl
  induction h with
  | nil => rfl
  | @plain c s t percent plus _ ih =>
    have hplain : plusToSpace (c :: s) = c :: plusToSpace s := by
      unfold plusToSpace
      rw [List.map_cons, if_neg plus]
    rw [hplain, bytes_cons percent, ih, hencode]
  | @space s t _ ih =>
    have hspace : plusToSpace ('+' :: s) = ' ' :: plusToSpace s := rfl
    rw [hspace, bytes_cons (by decide), ih, hencode]
  | @spelled c p s t spelled _ ih =>
    rw [plusToSpace_append, plusToSpace_of_spellsBytes spelled, bytes_of_spellsBytes spelled, ih,
      hencode]

/-- What spells a text is read as that text. -/
theorem decodeForm_of_spells {s t : List Char} (h : Spells s t) : decodeForm s = t := by
  unfold decodeForm decode
  rw [bytes_of_spells h, Utf8.decodeLossy_encode]

/-- Nothing is spelled by nothing but the empty text. -/
theorem eq_nil_of_spells {s t : List Char} (h : Spells s t) (hs : s = []) : t = [] := by
  cases h with
  | nil => rfl
  | plain _ _ _ => exact absurd hs (by simp)
  | space _ => exact absurd hs (by simp)
  | @spelled c p _ _ spelled _ =>
    obtain ⟨rfl, -⟩ := List.append_eq_nil_iff.mp hs
    have hbytes : String.utf8EncodeChar c = [] := by
      generalize String.utf8EncodeChar c = bs at spelled
      cases spelled
      rfl
    exact absurd hbytes String.utf8EncodeChar_ne_nil

/-- A text without percent and plus signs spells itself. -/
theorem spells_self {s : List Char} (h : ∀ c ∈ s, c ≠ '%' ∧ c ≠ '+') : Spells s s := by
  induction s with
  | nil => exact .nil
  | cons c cs ih =>
    obtain ⟨percent, plus⟩ := h c List.mem_cons_self
    exact .plain percent plus (ih fun d hd => h d (List.mem_cons_of_mem c hd))

/-! ## The usual encoding -/

/-- A byte as two digits behind a percent sign. -/
def escape (b : UInt8) : List Char :=
  ['%', (hexDigit (b.toNat / 16)).toUpper, (hexDigit (b.toNat % 16)).toUpper]

def encodeChar (c : Char) : List Char :=
  if c = ' ' then ['+']
  else if c.isAlphanum || ['-', '.', '_', '~'].contains c then [c]
  else (String.utf8EncodeChar c).flatMap escape

/-- The form encoding that leaves as it is what need not be encoded anywhere. -/
def encodeForm (s : List Char) : List Char := s.flatMap encodeChar

theorem spellsBytes_escape (bs : List UInt8) : SpellsBytes (bs.flatMap escape) bs := by
  have hdigit : ∀ v < 16, hexValue? (hexDigit v).toUpper = some v := by decide
  induction bs with
  | nil => exact .nil
  | cons b bs ih =>
    have hb := b.toNat_lt
    exact .byte (hdigit _ (by omega)) (hdigit _ (by omega)) ih

theorem spells_encodeForm (s : List Char) : Spells (encodeForm s) s := by
  induction s with
  | nil => exact .nil
  | cons c cs ih =>
    show Spells (encodeChar c ++ encodeForm cs) (c :: cs)
    unfold encodeChar
    by_cases hspace : c = ' '
    · rw [if_pos hspace, hspace]
      exact .space ih
    rw [if_neg hspace]
    by_cases hplain : (c.isAlphanum || ['-', '.', '_', '~'].contains c) = true
    · rw [if_pos hplain]
      refine .plain ?_ ?_ ih <;> rintro rfl <;> exact absurd hplain (by decide)
    · rw [if_neg hplain]
      exact .spelled (spellsBytes_escape _) ih

/-- There is no colon in it, whatever it encodes. -/
theorem colon_notMem_encodeForm (s : List Char) : ':' ∉ encodeForm s := by
  have hdigit : ∀ v < 16, (hexDigit v).toUpper ≠ ':' := by decide
  have hescape (b : UInt8) : ':' ∉ escape b := by
    have hb := b.toNat_lt
    have hhigh := hdigit (b.toNat / 16) (by omega)
    have hlow := hdigit (b.toNat % 16) (by omega)
    simp [escape, hhigh.symm, hlow.symm]
  intro hmem
  obtain ⟨c, -, hc⟩ := List.mem_flatMap.mp hmem
  unfold encodeChar at hc
  split at hc
  · exact absurd hc (by decide)
  split at hc
  next hplain =>
    rw [← List.mem_singleton.mp hc] at hplain
    exact absurd hplain (by decide)
  · obtain ⟨b, -, hb⟩ := List.mem_flatMap.mp hc
    exact hescape b hb

/-! ## What is read of any text -/

theorem bytes_ne_nil {s : List Char} (h : s ≠ []) : bytes s ≠ [] := by
  fun_cases bytes s with
  | case1 => exact List.cons_ne_nil _ _
  | case2 => exact List.cons_ne_nil _ _
  | case3 => exact List.append_ne_nil_of_left_ne_nil String.utf8EncodeChar_ne_nil _
  | case4 => exact absurd rfl h

/-- Of a text that is not empty something is read, whatever its bytes are. -/
theorem decodeForm_ne_nil {s : List Char} (h : s ≠ []) : decodeForm s ≠ [] := by
  apply Utf8.decodeLossy_ne_nil
  apply bytes_ne_nil
  unfold plusToSpace
  rw [Ne, List.map_eq_nil_iff]
  exact h

end TokenIssuer.Percent
