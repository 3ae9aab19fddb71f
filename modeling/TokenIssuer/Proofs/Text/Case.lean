import TokenIssuer.Proofs.Hex
import TokenIssuer.Proofs.Utf8.Canonical
import TokenIssuer.Text.Case

/-!
Lower-case forms, and words of ASCII in letters of either case, as schemes and media types are
written.
-/

namespace TokenIssuer.Text

variable {c d : Char} {s word : List Char}

/-! ## Lower-case forms -/

theorem lowerChar_cases (c : Char) :
    (∃ d, lowerChar c = [d]) ∨ lowerChar c = ['i', '\u0307'] := by
  unfold lowerChar
  simp only
  split
  · exact .inl ⟨c, rfl⟩
  split
  · exact .inl ⟨_, rfl⟩
  split
  · exact .inl ⟨c, rfl⟩
  split
  · exact .inr rfl
  split
  · exact .inl ⟨_, rfl⟩
  · exact .inl ⟨c, rfl⟩

/-- In ASCII each letter has its lower case to itself. -/
theorem lowerChar_eq_toLower (h : c.toNat < 0x80) : lowerChar c = [c.toLower] := by
  have hall : ∀ n < 0x80, lowerChar (Char.ofNat n) = [(Char.ofNat n).toLower] := by decide +kernel
  exact of_toNat_lt (P := fun c => lowerChar c = [c.toLower]) hall c h

/-- What stands before the lower-case letters is no other character in lower case. -/
theorem eq_of_lowerChar (h : lowerChar c = [d]) (early : d.toNat < 0x61) : c = d := by
  have hruns : ∀ r ∈ caseRuns, 0x61 ≤ (r.1 : Int) + r.2.2.2 ∧
      ((r.2.1 : Int) + r.2.2.2 < 0xD800 ∨
        0xDFFF < (r.1 : Int) + r.2.2.2 ∧ (r.2.1 : Int) + r.2.2.2 < 0x110000) :=
    List.all_iff_forall_prop.mp (by decide +kernel)
  -- A character that is moved to a lower-case form comes to stand among the letters.
  have hshifted (shift : Int) (hlow : 0x61 ≤ (c.toNat : Int) + shift)
      (hvalid : (c.toNat : Int) + shift < 0xD800 ∨
        0xDFFF < (c.toNat : Int) + shift ∧ (c.toNat : Int) + shift < 0x110000) :
      [shifted c shift] ≠ [d] := by
    intro he
    have hn : (shifted c shift).toNat = ((c.toNat : Int) + shift).toNat :=
      Utf8.toNat_ofNat (by unfold Nat.isValidChar; omega)
    rw [List.singleton_inj] at he
    rw [he] at hn
    omega
  unfold lowerChar at h
  simp only at h
  split at h
  next => exact List.singleton_inj.mp h
  split at h
  next hn => exact absurd h (hshifted 32 (by omega) (by omega))
  split at h
  next => exact List.singleton_inj.mp h
  split at h
  next => cases h
  split at h
  next r low high step shift hr =>
    have hmem := hruns _ (List.mem_of_find?_eq_some hr)
    have hfits := List.find?_some hr
    simp only [decide_eq_true_eq] at hmem hfits
    exact absurd h (hshifted shift (by omega) (by omega))
  next => exact List.singleton_inj.mp h

/-! ## Words -/

/-- There is neither a blank in the text nor a character outside ASCII. -/
def isWord (s : List Char) : Bool := s.all fun c => c.toNat < 0x80 && !isBlank c

theorem isWord_eq_true_iff :
    isWord s = true ↔ ∀ c ∈ s, c.toNat < 0x80 ∧ isBlank c = false := by
  unfold isWord
  simp only [List.all_eq_true, Bool.and_eq_true, decide_eq_true_eq, Bool.not_eq_true']

theorem toLower_mem_of_lowerAscii (h : lowerAscii s = word) (hc : c ∈ s) : c.toLower ∈ word := by
  rw [← h]
  exact List.mem_map_of_mem hc

theorem toNat_lt_of_lowerAscii (h : lowerAscii s = word) (hw : isWord word = true)
    (hc : c ∈ s) : c.toNat < 0x80 :=
  toNat_lt_of_toLower (isWord_eq_true_iff.mp hw _ (toLower_mem_of_lowerAscii h hc)).1

theorem lower_of_lowerAscii (h : lowerAscii s = word) (hw : isWord word = true) :
    lower s = word := by
  have hlower (c : Char) (hc : c ∈ s) : lowerChar c = [c.toLower] :=
    lowerChar_eq_toLower (toNat_lt_of_lowerAscii h hw hc)
  have hsigma : '\u03A3' ∉ s := by
    intro hs
    exact absurd (toNat_lt_of_lowerAscii h hw hs) (by decide)
  rw [lower_eq_flatMap hsigma, List.flatMap_def, List.map_congr_left hlower, ← List.flatMap_def,
    ← List.map_eq_flatMap]
  exact h

/-- What is no letter is in the text only if it is in the word. -/
theorem notMem_of_lowerAscii (h : lowerAscii s = word) (letter : c.toLower = c) (hc : c ∉ word) :
    c ∉ s := by
  intro hs
  apply hc
  rw [← letter]
  exact toLower_mem_of_lowerAscii h hs

theorem isBlank_of_lowerAscii (h : lowerAscii s = word) (hw : isWord word = true)
    (hc : c ∈ s) : isBlank c = false := by
  have hall : ∀ n < 0x80, isBlank (Char.ofNat n).toLower = isBlank (Char.ofNat n) := by
    decide +kernel
  have hsame : isBlank c.toLower = isBlank c :=
    of_toNat_lt (P := fun c => isBlank c.toLower = isBlank c) hall c
      (toNat_lt_of_lowerAscii h hw hc)
  rw [← hsame]
  exact (isWord_eq_true_iff.mp hw _ (toLower_mem_of_lowerAscii h hc)).2

end TokenIssuer.Text
