import TokenIssuer.Number.Read
import TokenIssuer.Proofs.Result

/-! Decimal digits read back. -/

namespace TokenIssuer.Number

theorem decimalValue?_of_isDigit {c : Char} (h : c.isDigit) :
    decimalValue? c = some (c.toNat - '0'.toNat) := by
  unfold decimalValue?
  rw [Char.isDigit, Bool.and_eq_true, decide_eq_true_eq, decide_eq_true_eq] at h
  exact if_pos h

/-- Digits are taken up to where something else stands. -/
theorem takeDigits_append {digits rest : List Char} (hd : ∀ c ∈ digits, c.isDigit)
    (hr : ∀ c ∈ rest.head?, decimalValue? c = none) :
    takeDigits (digits ++ rest) = (digits.map fun c => c.toNat - '0'.toNat, rest) := by
  induction digits with
  | nil =>
    cases rest with
    | nil => rfl
    | cons c cs =>
      have hc := hr c rfl
      rw [List.nil_append, takeDigits, hc, List.map_nil]
  | cons c cs ih =>
    have hc := decimalValue?_of_isDigit (hd c List.mem_cons_self)
    have hcs := ih fun d hm => hd d (List.mem_cons_of_mem c hm)
    rw [List.cons_append, takeDigits, hc, hcs, List.map_cons]

theorem ofDigits_toDigits (n : Nat) :
    ofDigits 10 ((Nat.toDigits 10 n).map fun c => c.toNat - '0'.toNat) = n := by
  have hn : Nat.ofDigitChars 10 (Nat.toDigits 10 n) 0 = n := Nat.ofDigitChars_ten_toDigits
  rw [Nat.ofDigitChars_eq_foldl] at hn
  unfold ofDigits
  rw [List.foldl_map]
  simp only [Nat.mul_comm _ 10]
  exact hn

/-- No number but zero is written with a zero in front. -/
theorem head_toDigits {n : Nat} (h : 0 < n) :
    ∃ c cs, Nat.toDigits 10 n = c :: cs ∧ c.toNat - '0'.toNat ≠ 0 := by
  induction n using Nat.strongRecOn with
  | _ n ih =>
    by_cases hn : n < 10
    · refine ⟨n.digitChar, [], Nat.toDigits_of_lt_base hn, ?_⟩
      have hd := Nat.toNat_digitChar_sub_48_of_lt_ten hn
      show n.digitChar.toNat - 48 ≠ 0
      omega
    -- The first digit is the one of the tenth part.
    · obtain ⟨c, cs, he, hc⟩ := ih (n / 10) (by omega) (by omega)
      refine ⟨c, cs ++ [Nat.digitChar (n % 10)], ?_, hc⟩
      rw [Nat.toDigits_of_base_le (by omega) (by omega), he, List.cons_append]

/-! ## Digits that were read are written again -/

theorem digitChar_of_decimalValue? {c : Char} {v : Nat} (h : decimalValue? c = some v) :
    v < 10 ∧ v.digitChar = c := by
  unfold decimalValue? at h
  split at h
  next hc =>
    have hlow : 48 ≤ c.toNat := hc.1
    have hhigh : c.toNat ≤ 57 := hc.2
    have hzero : '0'.toNat = 48 := rfl
    have hv : v = c.toNat - 48 := (Option.some.inj h).symm
    refine ⟨by omega, Char.toNat_inj.mp ?_⟩
    rw [Nat.toNat_digitChar_of_lt_ten (by omega)]
    omega
  next => cases h

theorem takeDigits_eq {s rest : List Char} {digits : List Nat}
    (h : takeDigits s = (digits, rest)) :
    s = digits.map Nat.digitChar ++ rest ∧ ∀ d ∈ digits, d < 10 := by
  induction s generalizing digits with
  | nil =>
    cases h
    exact ⟨rfl, List.forall_mem_nil _⟩
  | cons c cs ih =>
    rw [takeDigits] at h
    cases hv : decimalValue? c with
    | none =>
      rw [hv] at h
      cases h
      exact ⟨rfl, List.forall_mem_nil _⟩
    | some v =>
      rw [hv] at h
      obtain ⟨rfl, rfl⟩ := Prod.mk.inj h
      obtain ⟨hlt, hchar⟩ := digitChar_of_decimalValue? hv
      obtain ⟨hcs, hds⟩ := ih rfl
      rw [List.map_cons, List.cons_append, hchar, ← hcs]
      exact ⟨rfl, List.forall_mem_cons.mpr ⟨hlt, hds⟩⟩

theorem eq_map_of_mapM {s : List Char} {digits : List Nat}
    (h : s.mapM decimalValue? = some digits) :
    s = digits.map Nat.digitChar ∧ ∀ d ∈ digits, d < 10 := by
  rw [mapM_eq_some_iff] at h
  induction h with
  | nil => exact ⟨rfl, List.forall_mem_nil _⟩
  | cons hv _ ih =>
    obtain ⟨hlt, hchar⟩ := digitChar_of_decimalValue? hv
    rw [List.map_cons, hchar, ← ih.1]
    exact ⟨rfl, List.forall_mem_cons.mpr ⟨hlt, ih.2⟩⟩

/-- Digits after a number that is not zero are those of the number they make up. -/
theorem toDigits_foldl {digits : List Nat} (small : ∀ d ∈ digits, d < 10) {n : Nat} (h : 0 < n) :
    Nat.toDigits 10 (digits.foldl (fun n d => n * 10 + d) n) =
      Nat.toDigits 10 n ++ digits.map Nat.digitChar := by
  induction digits generalizing n with
  | nil => exact (List.append_nil _).symm
  | cons d ds ih =>
    obtain ⟨hd, hds⟩ := List.forall_mem_cons.mp small
    have hnext : Nat.toDigits 10 (n * 10 + d) = Nat.toDigits 10 n ++ [d.digitChar] := by
      rw [Nat.mul_comm, ← Nat.toDigits_append_toDigits (by decide) h hd, Nat.toDigits_of_lt_base hd]
    rw [List.foldl_cons, ih hds (by omega), hnext, List.append_assoc, List.singleton_append,
      List.map_cons]

theorem toDigits_ofDigits {d : Nat} {ds : List Nat} (small : ∀ d' ∈ d :: ds, d' < 10)
    (h : d ≠ 0 ∨ ds = []) :
    Nat.toDigits 10 (ofDigits 10 (d :: ds)) = (d :: ds).map Nat.digitChar := by
  obtain ⟨hd, hds⟩ := List.forall_mem_cons.mp small
  have hfirst : Nat.toDigits 10 d = [d.digitChar] := Nat.toDigits_of_lt_base hd
  rw [ofDigits, List.foldl_cons, Nat.zero_mul, Nat.zero_add]
  rcases h with h | rfl
  · rw [toDigits_foldl hds (Nat.pos_of_ne_zero h), hfirst]
    rfl
  · exact hfirst

end TokenIssuer.Number
