import Mathlib.Data.Bool.AllAny
import Mathlib.Data.List.Forall2
import Mathlib.Data.List.Induction
import TokenIssuer.Number.Read
import TokenIssuer.Proofs.Result
import TokenIssuer.Proofs.Text

/-! Hexadecimal digits in either case: which characters they are, and the numbers they write. -/

namespace TokenIssuer.Text

/-- What holds of all characters below a bound holds of every character that is below it. -/
theorem of_toNat_lt {b : Nat} {P : Char → Prop} (h : ∀ n < b, P (Char.ofNat n)) (c : Char)
    (hc : c.toNat < b) : P c := by
  have hp := h c.toNat hc
  rwa [Char.ofNat_toNat] at hp

theorem toNat_lt_of_toLower {c : Char} (h : c.toLower.toNat < 0x80) : c.toNat < 0x80 := by
  unfold Char.toLower at h
  split at h
  next hu =>
    have hz : c.toNat ≤ 'Z'.toNat := hu.2
    exact Nat.lt_of_le_of_lt hz (by decide)
  next => exact h

/-- The lower case of a digit tells its value. -/
theorem hexValue?_of_toLower {c : Char} {v : Nat} (hv : v < 16) (h : c.toLower = hexDigit v) :
    hexValue? c = some v := by
  have hdigit : ∀ v < 16, (hexDigit v).toNat < 0x80 := by decide
  have hc : c.toNat < 0x80 := toNat_lt_of_toLower (by rw [h]; exact hdigit v hv)
  have hall : ∀ n < 0x80, ∀ v < 16, (Char.ofNat n).toLower = hexDigit v →
      hexValue? (Char.ofNat n) = some v := by decide +kernel
  exact of_toNat_lt (P := fun c => ∀ v < 16, c.toLower = hexDigit v → hexValue? c = some v) hall c
    hc v hv h

theorem toNat_lt_of_hexValue? {c : Char} (h : (hexValue? c).isSome) : c.toNat < 0x80 := by
  have hle (d : Char) (hc : c ≤ d) : c.toNat ≤ d.toNat := hc
  unfold hexValue? at h
  split at h
  next hc => exact Nat.lt_of_le_of_lt (hle _ hc.2) (by decide)
  split at h
  next hc => exact Nat.lt_of_le_of_lt (hle _ hc.2) (by decide)
  split at h
  next hc => exact Nat.lt_of_le_of_lt (hle _ hc.2) (by decide)
  exact absurd h Bool.false_ne_true

/-- What is no hexadecimal digit. -/
theorem ne_of_hexValue? {c : Char} (h : (hexValue? c).isSome) :
    c ∉ [':', '{', '}', '-', '+', '_', 'x', 'X'] := by
  have hall : ∀ d ∈ [':', '{', '}', '-', '+', '_', 'x', 'X'], (hexValue? d).isSome = false :=
    List.all_iff_forall_prop.mp (by decide)
  intro hm
  rw [hall c hm] at h
  exact absurd h Bool.false_ne_true

theorem isBlank_of_hexValue? {c : Char} (h : (hexValue? c).isSome) : isBlank c = false := by
  have hall : ∀ n < 0x80, (hexValue? (Char.ofNat n)).isSome → isBlank (Char.ofNat n) = false := by
    decide +kernel
  exact of_toNat_lt (P := fun c => (hexValue? c).isSome → isBlank c = false) hall c
    (toNat_lt_of_hexValue? h) h

theorem length_hexDigits (width n : Nat) : (hexDigits width n).length = width := by
  induction width generalizing n with
  | zero => rfl
  | succ w ih => rw [hexDigits, List.length_append, ih]; rfl

/-- Every character of such digits is a hexadecimal digit. -/
theorem isSome_hexValue?_of_lower {width n : Nat} {s : List Char}
    (h : lowerAscii s = hexDigits width n) : ∀ c ∈ s, (hexValue? c).isSome := by
  induction width generalizing n s with
  | zero =>
    have hs : s = [] := List.map_eq_nil_iff.mp h
    rw [hs]
    exact fun c hc => absurd hc List.not_mem_nil
  | succ w ih =>
    rw [hexDigits] at h
    obtain ⟨front, last, rfl, hfront, hlast⟩ := List.map_eq_append_iff.mp h
    obtain ⟨d, rfl, hd⟩ := List.map_eq_singleton_iff.mp hlast
    intro c hc
    rcases List.mem_append.mp hc with hc | hc
    · exact ih hfront c hc
    · rw [List.mem_singleton.mp hc, hexValue?_of_toLower (Nat.mod_lt n (by omega)) hd]
      rfl

theorem lowerAscii_hexDigits (width n : Nat) :
    lowerAscii (hexDigits width n) = hexDigits width n := by
  have hdigit : ∀ v < 16, (hexDigit v).toLower = hexDigit v := by decide
  induction width generalizing n with
  | zero => rfl
  | succ w ih =>
    have hw := ih (n / 16)
    unfold lowerAscii at hw ⊢
    rw [hexDigits, List.map_append, hw, List.map_singleton,
      hdigit (n % 16) (Nat.mod_lt n (by omega))]

end TokenIssuer.Text

namespace TokenIssuer.Number

open Text

/-- A text of hexadecimal digits has no decimal digit of another script in it. -/
theorem asciiDigits_of_hex {s : List Char} (h : ∀ c ∈ s, (hexValue? c).isSome) :
    asciiDigits s = s := by
  have hall : ∀ n < 0x80, (hexValue? (Char.ofNat n)).isSome →
      asciiDigits [Char.ofNat n] = [Char.ofNat n] := by
    decide +kernel
  induction s with
  | nil => rfl
  | cons c cs ih =>
    have hc : asciiDigits [c] = [c] :=
      of_toNat_lt (P := fun c => (hexValue? c).isSome → asciiDigits [c] = [c]) hall c
        (toNat_lt_of_hexValue? (h c List.mem_cons_self)) (h c List.mem_cons_self)
    have happend : asciiDigits (c :: cs) = asciiDigits [c] ++ asciiDigits cs := rfl
    rw [happend, hc, ih fun d hd => h d (List.mem_cons_of_mem c hd), List.singleton_append]

/-- The value of a hexadecimal digit. -/
def hexValue (c : Char) : Nat := (hexValue? c).getD 0

theorem digitRun?_of_hex {s : List Char} (h : ∀ c ∈ s, (hexValue? c).isSome) {afterDigit : Bool}
    (hs : afterDigit = true ∨ s ≠ []) :
    digitRun? hexValue? afterDigit s = some (s.map hexValue) := by
  induction s generalizing afterDigit with
  | nil =>
    rcases hs with rfl | hs
    · rfl
    · exact absurd rfl hs
  | cons c cs ih =>
    have hc := h c List.mem_cons_self
    have hbar : c ≠ '_' := by
      rintro rfl
      exact absurd hc (by decide)
    obtain ⟨v, hv⟩ := Option.isSome_iff_exists.mp hc
    rw [digitRun?, if_neg hbar, hv, ih (fun d hd => h d (List.mem_cons_of_mem c hd)) (.inl rfl)]
    show some (v :: cs.map hexValue) = _
    rw [List.map_cons, hexValue, hv]
    rfl

/-- Digits whose lower case are the last digits of a number write that number. -/
theorem ofDigits_of_lower {width n : Nat} {s : List Char} (hn : n < Nat.pow 16 width)
    (h : lowerAscii s = hexDigits width n) : ofDigits 16 (s.map hexValue) = n := by
  -- The last digit comes off the end, as the number is divided by sixteen.
  induction width generalizing n s with
  | zero =>
    have hs : s = [] := List.map_eq_nil_iff.mp h
    rw [hs]
    show 0 = n
    have hone : n < 1 := hn
    omega
  | succ w ih =>
    rw [hexDigits] at h
    obtain ⟨front, last, rfl, hfront, hlast⟩ := List.map_eq_append_iff.mp h
    obtain ⟨c, rfl, hc⟩ := List.map_eq_singleton_iff.mp hlast
    have hquotient : n / 16 < Nat.pow 16 w :=
      Nat.div_lt_of_lt_mul (Nat.mul_comm (Nat.pow 16 w) 16 ▸ hn)
    have hvalue := hexValue?_of_toLower (Nat.mod_lt n (by omega)) hc
    have hf := ih hquotient hfront
    unfold ofDigits at hf ⊢
    rw [List.map_append, List.foldl_append, hf, List.map_singleton, hexValue, hvalue]
    show n / 16 * 16 + n % 16 = n
    omega

theorem splitSign_of_hex {s : List Char} (h : ∀ c ∈ s, (hexValue? c).isSome) :
    splitSign s = (false, s) := by
  unfold splitSign
  split
  · exact absurd (h '-' List.mem_cons_self) (by decide)
  · exact absurd (h '+' List.mem_cons_self) (by decide)
  · rfl

theorem dropHexMark_of_hex {s : List Char} (h : ∀ c ∈ s, (hexValue? c).isSome) :
    dropHexMark s = s := by
  have hmark {x : Char} (hx : x ∈ s) : ¬ (x = 'x' ∨ x = 'X') := by
    have hne := ne_of_hexValue? (h x hx)
    rintro (rfl | rfl) <;> exact hne (by decide)
  unfold dropHexMark
  split
  · exact if_neg (hmark (List.mem_cons_of_mem _ List.mem_cons_self))
  · exact if_neg (hmark (List.mem_cons_of_mem _ List.mem_cons_self))
  · rfl

/-- A text of hexadecimal digits is read as the number they write. -/
theorem readHex?_of_hex {s : List Char} (hs : s ≠ []) (h : ∀ c ∈ s, (hexValue? c).isSome) :
    readHex? s = some (ofDigits 16 (s.map hexValue)) := by
  have hblank (c : Char) (hc : c ∈ s) : isNumberBlank c = false := by
    unfold isNumberBlank
    rw [isBlank_of_hexValue? (h c hc), Bool.false_and]
  have hbare : bareNumber s = s := by
    unfold bareNumber
    rw [asciiDigits_of_hex h, dropAround_eq_self hblank]
  unfold readHex?
  rw [hbare, splitSign_of_hex h]
  simp only [dropHexMark_of_hex h, digitRun?_of_hex h (.inr hs), Bool.false_and]
  rfl

/-! ## Digits that were read are written again -/

/-- A text is read digit by digit if it has nothing but digits. -/
theorem mapM_hexValue?_eq_some_iff {s : List Char} {digits : List Nat} :
    s.mapM hexValue? = some digits ↔
      (∀ c ∈ s, (hexValue? c).isSome) ∧ digits = s.map hexValue := by
  rw [mapM_eq_some_iff]
  constructor
  · intro h
    induction h with
    | nil => exact ⟨List.forall_mem_nil _, rfl⟩
    | cons hv _ ih =>
      refine ⟨List.forall_mem_cons.mpr ⟨Option.isSome_of_eq_some hv, ih.1⟩, ?_⟩
      rw [List.map_cons, ← ih.2, hexValue, hv, Option.getD_some]
  · rintro ⟨h, rfl⟩
    rw [List.forall₂_map_right_iff, List.forall₂_same]
    intro c hc
    obtain ⟨v, hv⟩ := Option.isSome_iff_exists.mp (h c hc)
    rw [hexValue, hv, Option.getD_some]

theorem hexDigit_hexValue {c : Char} (h : (hexValue? c).isSome) :
    hexValue c < 16 ∧ hexDigit (hexValue c) = c.toLower := by
  have hall : ∀ n < 0x80, (hexValue? (Char.ofNat n)).isSome → hexValue (Char.ofNat n) < 16 ∧
      hexDigit (hexValue (Char.ofNat n)) = (Char.ofNat n).toLower := by
    decide +kernel
  exact of_toNat_lt (P := fun c => (hexValue? c).isSome → hexValue c < 16 ∧
    hexDigit (hexValue c) = c.toLower) hall c (toNat_lt_of_hexValue? h) h

theorem ofDigits_concat (base : Nat) (digits : List Nat) (d : Nat) :
    ofDigits base (digits ++ [d]) = ofDigits base digits * base + d :=
  List.foldl_append

theorem ofDigits_zeros (base count : Nat) (digits : List Nat) :
    ofDigits base (List.replicate count 0 ++ digits) = ofDigits base digits := by
  induction count with
  | zero => rfl
  | succ n ih =>
    rw [← ih, List.replicate_succ, List.cons_append, ofDigits, List.foldl_cons, Nat.zero_mul]
    rfl

theorem ofDigits_lt {s : List Char} (h : ∀ c ∈ s, (hexValue? c).isSome) :
    ofDigits 16 (s.map hexValue) < Nat.pow 16 s.length := by
  induction s using List.reverseRecOn with
  | nil => exact Nat.one_pos
  | append_singleton front c ih =>
    obtain ⟨hfront, hc⟩ := List.forall_mem_append.mp h
    have hv := (hexDigit_hexValue (hc c List.mem_cons_self)).1
    have hpower : Nat.pow 16 (front ++ [c]).length = Nat.pow 16 front.length * 16 := by
      rw [List.length_append]
      rfl
    have hih := ih hfront
    rw [List.map_append, List.map_singleton, ofDigits_concat, hpower]
    omega

theorem hexDigits_zero (width : Nat) : hexDigits width 0 = List.replicate width '0' := by
  induction width with
  | zero => rfl
  | succ w ih => rw [hexDigits, Nat.zero_div, ih, List.replicate_succ']; rfl

/-- The number that a text of digits writes has these digits in lower case, with zeros in front. -/
theorem hexDigits_ofDigits {s : List Char} (h : ∀ c ∈ s, (hexValue? c).isSome) {width : Nat}
    (fits : s.length ≤ width) :
    hexDigits width (ofDigits 16 (s.map hexValue)) =
      List.replicate (width - s.length) '0' ++ lowerAscii s := by
  -- The last digit comes off the end of the text and of the number alike.
  induction s using List.reverseRecOn generalizing width with
  | nil => exact (hexDigits_zero width).trans (List.append_nil _).symm
  | append_singleton front c ih =>
    obtain ⟨hfront, hc⟩ := List.forall_mem_append.mp h
    obtain ⟨hv, hdigit⟩ := hexDigit_hexValue (hc c List.mem_cons_self)
    rw [List.length_append, List.length_singleton] at fits ⊢
    obtain ⟨w, rfl⟩ : ∃ w, width = w + 1 := ⟨width - 1, by omega⟩
    have hquotient : (ofDigits 16 (front.map hexValue) * 16 + hexValue c) / 16 =
        ofDigits 16 (front.map hexValue) := by omega
    have hremainder : (ofDigits 16 (front.map hexValue) * 16 + hexValue c) % 16 =
        hexValue c := by omega
    rw [List.map_append, List.map_singleton, ofDigits_concat, hexDigits, hquotient, hremainder,
      hdigit, ih hfront (by omega), Nat.add_sub_add_right, List.append_assoc]
    unfold lowerAscii
    rw [List.map_append, List.map_singleton]

end TokenIssuer.Number
