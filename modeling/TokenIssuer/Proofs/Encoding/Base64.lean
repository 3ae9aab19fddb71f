import TokenIssuer.Encoding.Base64

/-! The characters of Base64, what the strict reader takes, and the unpadded form read back. -/

namespace TokenIssuer.Base64

theorem toNat_lt_of_value? {c : Char} (h : (value? c).isSome) : c.toNat < 0x80 := by
  have hle (d : Char) (hc : c ≤ d) : c.toNat ≤ d.toNat := hc
  unfold value? at h
  split at h
  next hc => exact Nat.lt_of_le_of_lt (hle _ hc.2) (by decide)
  split at h
  next hc => exact Nat.lt_of_le_of_lt (hle _ hc.2) (by decide)
  split at h
  next hc => exact Nat.lt_of_le_of_lt (hle _ hc.2) (by decide)
  split at h
  next hc => subst hc; decide
  split at h
  next hc => subst hc; decide
  exact absurd h Bool.false_ne_true

/-- The strict reader takes nothing but characters of ASCII, from whatever state it goes on. -/
theorem ascii_of_read_strict {state : State} {s : List Char} {bytes : List UInt8}
    (h : read true state s = .ok bytes) : ∀ c ∈ s, c.toNat < 0x80 := by
  induction s generalizing state bytes with
  | nil => intro c hc; exact absurd hc List.not_mem_nil
  | cons d ds ih =>
    -- Either the padding ends the text here, or the reader goes on with the rest of it.
    have hrest : ds = [] ∨ ∃ next rest, read true next ds = .ok rest := by
      rw [read] at h
      split at h
      · split at h
        · split at h
          · split at h
            · exact absurd h (by simp)
            next hds => left; simpa using hds
          · exact .inr ⟨_, _, h⟩
        · exact .inr ⟨_, _, h⟩
      · split at h
        · exact absurd h (by simp)
        · split at h
          · exact absurd h (by simp)
          · split at h
            next byte next _ =>
              right
              cases hr : read true next ds with
              | error fault => rw [hr] at h; exact absurd h (by simp [Functor.map, Except.map])
              | ok rest => exact ⟨next, rest, hr⟩
            · exact .inr ⟨_, _, h⟩
    have hfirst : d.toNat < 0x80 := by
      rw [read] at h
      by_cases hd : d = '='
      · subst hd; decide
      · rw [if_neg hd] at h
        cases hv : value? d with
        | none => rw [hv] at h; exact absurd h (by simp)
        | some v => exact toNat_lt_of_value? (by rw [hv]; rfl)
    intro c hc
    rcases List.mem_cons.mp hc with rfl | hc
    · exact hfirst
    · rcases hrest with rfl | ⟨next, rest, hr⟩
      · exact absurd hc List.not_mem_nil
      · exact ih hr c hc

theorem ascii_of_decodeStrict? {s : List Char} {bytes : List UInt8}
    (h : decodeStrict? s = some bytes) : ∀ c ∈ s, c.toNat < 0x80 := by
  unfold decodeStrict? at h
  split at h
  · exact absurd h (by simp)
  · cases hr : read true .initial s with
    | error fault => rw [hr] at h; exact absurd h (by simp [Except.toOption])
    | ok read => exact ascii_of_read_strict hr

theorem value?_symbol {n : Nat} (h : n < 64) : value? (symbol n) = some n := by
  have hall : ∀ n < 64, value? (symbol n) = some n := by decide
  exact hall n h

theorem isSome_value?_symbol {n : Nat} (h : n < 64) : (value? (symbol n)).isSome := by
  rw [value?_symbol h]; rfl

/-- What is written is written in the alphabet. -/
theorem isSome_value?_of_mem_encode {c : Char} {bytes : List UInt8} (h : c ∈ encode bytes) :
    (value? c).isSome := by
  -- Three bytes are four symbols of six bits each.
  have hfirst (a : UInt8) : a.toNat / 4 < 64 := by have := a.toNat_lt; omega
  have hsecond (a b : UInt8) : a.toNat % 4 * 16 + b.toNat / 16 < 64 := by
    have := b.toNat_lt; omega
  have hthird (b c : UInt8) : b.toNat % 16 * 4 + c.toNat / 64 < 64 := by
    have := c.toNat_lt; omega
  induction bytes using encode.induct with
  | case1 => exact absurd h List.not_mem_nil
  | case2 a =>
    simp only [encode, List.mem_cons, List.not_mem_nil, or_false] at h
    rcases h with rfl | rfl
    · exact isSome_value?_symbol (hfirst a)
    · exact isSome_value?_symbol (by omega)
  | case3 a b =>
    simp only [encode, List.mem_cons, List.not_mem_nil, or_false] at h
    rcases h with rfl | rfl | rfl
    · exact isSome_value?_symbol (hfirst a)
    · exact isSome_value?_symbol (hsecond a b)
    · exact isSome_value?_symbol (by omega)
  | case4 a b c rest ih =>
    simp only [encode, List.mem_cons] at h
    rcases h with rfl | rfl | rfl | rfl | h
    · exact isSome_value?_symbol (hfirst a)
    · exact isSome_value?_symbol (hsecond a b)
    · exact isSome_value?_symbol (hthird b c)
    · exact isSome_value?_symbol (by omega)
    · exact ih h

/-- The unpadded form is read back. -/
theorem decodeUnpadded?_encode (bytes : List UInt8) :
    decodeUnpadded? (encode bytes) = some bytes := by
  have hbyte (n : Nat) (a : UInt8) (h : n = a.toNat) : UInt8.ofNat n = a := by
    rw [h, UInt8.ofNat_toNat]
  induction bytes using encode.induct with
  | case1 => rfl
  | case2 a =>
    have ha := a.toNat_lt
    simp only [encode, decodeUnpadded?]
    rw [value?_symbol (by omega), value?_symbol (by omega)]
    -- The bits left over are zero, which the reader insists on.
    have hzero : a.toNat % 4 * 16 % 16 = 0 := by omega
    simp only [Option.bind_eq_bind, Option.bind_some, hzero, if_true]
    rw [hbyte _ a (by omega)]
  | case3 a b =>
    have ha := a.toNat_lt
    have hb := b.toNat_lt
    simp only [encode, decodeUnpadded?]
    rw [value?_symbol (by omega), value?_symbol (by omega), value?_symbol (by omega)]
    have hzero : b.toNat % 16 * 4 % 4 = 0 := by omega
    simp only [Option.bind_eq_bind, Option.bind_some, hzero, if_true]
    rw [hbyte _ a (by omega), hbyte _ b (by omega)]
  | case4 a b c rest ih =>
    have ha := a.toNat_lt
    have hb := b.toNat_lt
    have hc := c.toNat_lt
    simp only [encode, decodeUnpadded?]
    rw [value?_symbol (by omega), value?_symbol (by omega), value?_symbol (by omega),
      value?_symbol (by omega), ih]
    simp only [Option.bind_eq_bind, Option.bind_some]
    rw [hbyte _ a (by omega), hbyte _ b (by omega), hbyte _ c (by omega)]

theorem symbol_of_value? {c : Char} {n : Nat} (h : value? c = some n) :
    n < 64 ∧ symbol n = c := by
  have hrange (low high : Char) (hc : low ≤ c ∧ c ≤ high) :
      low.toNat ≤ c.toNat ∧ c.toNat ≤ high.toNat := hc
  have hchar (k : Nat) (hk : k = c.toNat) : Char.ofNat k = c := by rw [hk, Char.ofNat_toNat]
  unfold value? at h
  unfold symbol
  split at h
  next hc =>
    have hbounds := hrange 'A' 'Z' hc
    simp only [Char.reduceToNat, Option.some.injEq] at hbounds h ⊢
    rw [if_pos (by omega), hchar _ (by omega)]
    exact ⟨by omega, rfl⟩
  split at h
  next hc =>
    have hbounds := hrange 'a' 'z' hc
    simp only [Char.reduceToNat, Option.some.injEq] at hbounds h ⊢
    rw [if_neg (by omega), if_pos (by omega), hchar _ (by omega)]
    exact ⟨by omega, rfl⟩
  split at h
  next hc =>
    have hbounds := hrange '0' '9' hc
    simp only [Char.reduceToNat, Option.some.injEq] at hbounds h ⊢
    rw [if_neg (by omega), if_neg (by omega), if_pos (by omega), hchar _ (by omega)]
    exact ⟨by omega, rfl⟩
  split at h
  next hc =>
    cases h
    exact ⟨by decide, hc.symm⟩
  split at h
  next hc =>
    cases h
    exact ⟨by decide, hc.symm⟩
  cases h

/-- The unpadded form is the only text that is read as its bytes. -/
theorem encode_of_decodeUnpadded? {s : List Char} {bytes : List UInt8}
    (h : decodeUnpadded? s = some bytes) : encode bytes = s := by
  have hbyte (n : Nat) (hn : n < 256) : (UInt8.ofNat n).toNat = n := UInt8.toNat_ofNat_of_lt hn
  induction s using decodeUnpadded?.induct generalizing bytes with
  | case1 => cases h; rfl
  | case2 c => cases h
  | case3 a b =>
    simp only [decodeUnpadded?, Option.bind_eq_bind, Option.bind_eq_some_iff,
      Option.ite_none_right_eq_some, Option.some.injEq] at h
    obtain ⟨x, hx, y, hy, hzero, rfl⟩ := h
    obtain ⟨hx, rfl⟩ := symbol_of_value? hx
    obtain ⟨hy, rfl⟩ := symbol_of_value? hy
    -- The bits left over are zero, so that they are written again as they were.
    have hfirst : (x * 4 + y / 16) / 4 = x := by omega
    have hsecond : (x * 4 + y / 16) % 4 * 16 = y := by omega
    rw [encode, hbyte _ (by omega), hfirst, hsecond]
  | case4 a b c =>
    simp only [decodeUnpadded?, Option.bind_eq_bind, Option.bind_eq_some_iff,
      Option.ite_none_right_eq_some, Option.some.injEq] at h
    obtain ⟨x, hx, y, hy, z, hz, hzero, rfl⟩ := h
    obtain ⟨hx, rfl⟩ := symbol_of_value? hx
    obtain ⟨hy, rfl⟩ := symbol_of_value? hy
    obtain ⟨hz, rfl⟩ := symbol_of_value? hz
    have hfirst : (x * 4 + y / 16) / 4 = x := by omega
    have hsecond : (x * 4 + y / 16) % 4 * 16 + (y % 16 * 16 + z / 4) / 16 = y := by omega
    have hthird : (y % 16 * 16 + z / 4) % 16 * 4 = z := by omega
    rw [encode, hbyte _ (by omega), hbyte _ (by omega), hfirst, hsecond, hthird]
  | case5 a b c d rest ih =>
    simp only [decodeUnpadded?, Option.bind_eq_bind, Option.bind_eq_some_iff,
      Option.some.injEq] at h
    obtain ⟨x, hx, y, hy, z, hz, w, hw, more, hmore, rfl⟩ := h
    obtain ⟨hx, rfl⟩ := symbol_of_value? hx
    obtain ⟨hy, rfl⟩ := symbol_of_value? hy
    obtain ⟨hz, rfl⟩ := symbol_of_value? hz
    obtain ⟨hw, rfl⟩ := symbol_of_value? hw
    have hfirst : (x * 4 + y / 16) / 4 = x := by omega
    have hsecond : (x * 4 + y / 16) % 4 * 16 + (y % 16 * 16 + z / 4) / 16 = y := by omega
    have hthird : (y % 16 * 16 + z / 4) % 16 * 4 + (z % 4 * 64 + w) / 64 = z := by omega
    have hfourth : (z % 4 * 64 + w) % 64 = w := by omega
    rw [encode, hbyte _ (by omega), hbyte _ (by omega), hbyte _ (by omega), hfirst, hsecond,
      hthird, hfourth, ih hmore]

/-- Base64 as it stands in a header: filled up with padding to groups of four. -/
def encodePadded (bytes : List UInt8) : List Char :=
  encode bytes ++ List.replicate ((3 - bytes.length % 3) % 3) '='

theorem symbol_ne_pad {n : Nat} (h : n < 64) : symbol n ≠ '=' := by
  intro he
  have hv := isSome_value?_symbol h
  rw [he] at hv
  exact absurd hv (by decide)

/-- As long as no padding came, the strict reader takes every symbol. -/
theorem read_symbol {state : State} {n : Nat} (unpadded : state.padded = false) (h : n < 64)
    (cs : List Char) :
    read true state (symbol n :: cs) =
      match state.accept n with
      | (some byte, next) => (byte :: ·) <$> read true next cs
      | (none, next) => read true next cs := by
  rw [read, if_neg (symbol_ne_pad h), value?_symbol h]
  simp only [unpadded, Bool.and_false]
  rfl

/-- The strict reader gives back what is written, group by group. -/
theorem read_encodePadded (bytes : List UInt8) (written : Nat) :
    read true ⟨0, 0, 0, false, written⟩ (encodePadded bytes) = .ok bytes := by
  have hbyte (n : Nat) (a : UInt8) (h : n = a.toNat) : UInt8.ofNat n = a := by
    rw [h, UInt8.ofNat_toNat]
  unfold encodePadded
  -- By the groups of three that the encoder takes; the state between two groups is empty.
  induction bytes using encode.induct generalizing written with
  | case1 => rfl
  | case2 a =>
    have ha := a.toNat_lt
    have hfirst : a.toNat / 4 * 4 + a.toNat % 4 * 16 / 16 = a.toNat := by omega
    simp only [encode, List.cons_append, List.nil_append]
    rw [read_symbol rfl (by omega)]
    simp only [State.accept]
    rw [read_symbol rfl (by omega)]
    simp only [State.accept, hbyte _ a hfirst]
    rfl
  | case3 a b =>
    have ha := a.toNat_lt
    have hb := b.toNat_lt
    have hfirst : a.toNat / 4 * 4 + (a.toNat % 4 * 16 + b.toNat / 16) / 16 = a.toNat := by omega
    have hsecond :
        (a.toNat % 4 * 16 + b.toNat / 16) % 16 * 16 + b.toNat % 16 * 4 / 4 = b.toNat := by
      omega
    simp only [encode, List.cons_append, List.nil_append]
    rw [read_symbol rfl (by omega)]
    simp only [State.accept]
    rw [read_symbol rfl (by omega)]
    simp only [State.accept]
    rw [read_symbol rfl (by omega)]
    simp only [State.accept, hbyte _ a hfirst, hbyte _ b hsecond]
    rfl
  | case4 a b c rest ih =>
    have ha := a.toNat_lt
    have hb := b.toNat_lt
    have hc := c.toNat_lt
    have hfirst : a.toNat / 4 * 4 + (a.toNat % 4 * 16 + b.toNat / 16) / 16 = a.toNat := by omega
    have hsecond : (a.toNat % 4 * 16 + b.toNat / 16) % 16 * 16 +
        (b.toNat % 16 * 4 + c.toNat / 64) / 4 = b.toNat := by omega
    have hthird : (b.toNat % 16 * 4 + c.toNat / 64) % 4 * 64 + c.toNat % 64 = c.toNat := by omega
    have hpadding : (3 - (a :: b :: c :: rest).length % 3) % 3 = (3 - rest.length % 3) % 3 := by
      simp only [List.length_cons]
      omega
    rw [hpadding]
    simp only [encode, List.cons_append]
    rw [read_symbol rfl (by omega)]
    simp only [State.accept]
    rw [read_symbol rfl (by omega)]
    simp only [State.accept]
    rw [read_symbol rfl (by omega)]
    simp only [State.accept]
    rw [read_symbol rfl (by omega)]
    simp only [State.accept, hbyte _ a hfirst, hbyte _ b hsecond, hbyte _ c hthird]
    rw [ih]
    rfl

theorem decodeStrict?_encodePadded (bytes : List UInt8) :
    decodeStrict? (encodePadded bytes) = some bytes := by
  have hhead : (encodePadded bytes).head? ≠ some '=' := by
    unfold encodePadded
    match bytes with
    | [] => simp [encode]
    | a :: rest =>
      -- However the group goes on, it begins with the symbol of the first six bits.
      have hfirst : symbol (a.toNat / 4) ≠ '=' := by
        have ha := a.toNat_lt
        exact symbol_ne_pad (by omega)
      rcases rest with _ | ⟨b, _ | ⟨c, rest⟩⟩ <;> simpa [encode] using hfirst
  unfold decodeStrict? State.initial
  rw [if_neg hhead, read_encodePadded bytes 0]
  rfl

end TokenIssuer.Base64
