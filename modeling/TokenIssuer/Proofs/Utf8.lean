import TokenIssuer.Text.Utf8

/-! Texts are read back from their bytes in UTF-8. -/

namespace TokenIssuer.Utf8

/-! ## The bytes of one character -/

theorem toNat_byte {n : Nat} (h : n < 256) : (UInt8.ofNat n).toNat = n := by
  rw [UInt8.toNat_ofNat', Nat.mod_eq_of_lt h]

theorem byte_lt_iff {n : Nat} (h : n < 256) (b : UInt8) : UInt8.ofNat n < b ↔ n < b.toNat := by
  rw [UInt8.lt_iff_toNat_lt, toNat_byte h]

theorem byte_eq_iff {n : Nat} (h : n < 256) (b : UInt8) : UInt8.ofNat n = b ↔ n = b.toNat := by
  rw [← UInt8.toNat_inj, toNat_byte h]

/-- Bytes of more than 0x7F begin characters of several bytes, in ranges one above the other. -/
theorem lead_byte {n : Nat} (h : n < 256) :
    lead (UInt8.ofNat n) =
      if n < 0x80 then .char (Char.ofNat n)
      else if n < 0xC2 then .bad
      else if n < 0xE0 then .more ⟨n - 0xC0, 1, 0x80, 0xBF⟩
      else if n = 0xE0 then .more ⟨0, 2, 0xA0, 0xBF⟩
      else if n = 0xED then .more ⟨0xD, 2, 0x80, 0x9F⟩
      else if n < 0xF0 then .more ⟨n - 0xE0, 2, 0x80, 0xBF⟩
      else if n = 0xF0 then .more ⟨0, 3, 0x90, 0xBF⟩
      else if n < 0xF4 then .more ⟨n - 0xF0, 3, 0x80, 0xBF⟩
      else if n = 0xF4 then .more ⟨4, 3, 0x80, 0x8F⟩
      else .bad := by
  unfold lead
  simp only [byte_lt_iff h, byte_eq_iff h, toNat_byte h]
  rfl

/-- A byte in its range goes on with the character under way, or ends it. -/
theorem decodeFrom_byte {p : Pending} {n : Nat} (hn : n < 256) (low : p.low.toNat ≤ n)
    (high : n ≤ p.high.toNat) (bs : List UInt8) :
    decodeFrom (some p) (UInt8.ofNat n :: bs) =
      if p.owed ≤ 1 then some (Char.ofNat (p.value * 64 + n % 64)) :: decodeFrom none bs
      else decodeFrom (some ⟨p.value * 64 + n % 64, p.owed - 1, 0x80, 0xBF⟩) bs := by
  have hrange : p.low ≤ UInt8.ofNat n ∧ UInt8.ofNat n ≤ p.high := by
    rw [UInt8.le_iff_toNat_le, UInt8.le_iff_toNat_le, toNat_byte hn]
    exact ⟨low, high⟩
  rw [decodeFrom, if_pos hrange, toNat_byte hn]

/-- A byte that may follow any other goes on with the character under way. -/
theorem decodeFrom_last {value x : Nat} (hx : x < 64) (bs : List UInt8) :
    decodeFrom (some ⟨value, 1, 0x80, 0xBF⟩) (UInt8.ofNat (x + 128) :: bs) =
      some (Char.ofNat (value * 64 + x)) :: decodeFrom none bs := by
  have hmod : (x + 128) % 64 = x := by omega
  have hlow : (0x80 : UInt8).toNat ≤ x + 128 := by
    show 128 ≤ x + 128
    omega
  have hhigh : x + 128 ≤ (0xBF : UInt8).toNat := by
    show x + 128 ≤ 191
    omega
  rw [decodeFrom_byte (by omega) hlow hhigh, hmod]
  exact if_pos (Nat.le_refl 1)

theorem decodeFrom_more {value owed x : Nat} {low high : UInt8} (ho : 1 < owed) (hx : x < 64)
    (hlow : low.toNat ≤ x + 128) (hhigh : x + 128 ≤ high.toNat) (bs : List UInt8) :
    decodeFrom (some ⟨value, owed, low, high⟩) (UInt8.ofNat (x + 128) :: bs) =
      decodeFrom (some ⟨value * 64 + x, owed - 1, 0x80, 0xBF⟩) bs := by
  have hmod : (x + 128) % 64 = x := by omega
  rw [decodeFrom_byte (by omega) hlow hhigh, hmod]
  exact if_neg (Nat.not_le.mpr ho)

/-- What begins a character of three bytes, and that the second byte of it is in its range. -/
theorem lead_three {v : Nat} (least : 0x800 ≤ v) (most : v < 0x10000) (valid : v.isValidChar) :
    ∃ low high, lead (UInt8.ofNat (v / 4096 % 16 + 224)) = .more ⟨v / 4096, 2, low, high⟩ ∧
      low.toNat ≤ v / 64 % 64 + 128 ∧ v / 64 % 64 + 128 ≤ high.toNat := by
  rw [lead_byte (by omega)]
  by_cases hzero : v / 4096 = 0
  · refine ⟨0xA0, 0xBF, ?_, ?_, ?_⟩
    · simp [hzero]
    · show 160 ≤ _
      omega
    · show _ ≤ 191
      omega
  -- Behind 0xED only the lower half may come; the upper one is that of the surrogates.
  by_cases hsurrogate : v / 4096 = 13
  · refine ⟨0x80, 0x9F, ?_, ?_, ?_⟩
    · simp [hsurrogate]
    · show 128 ≤ _
      omega
    · show _ ≤ 159
      rcases valid with hlow | hhigh
      · omega
      · omega
  · refine ⟨0x80, 0xBF, ?_, ?_, ?_⟩
    · have hvalue : v / 4096 % 16 + 224 - 0xE0 = v / 4096 := by omega
      rw [if_neg (by omega), if_neg (by omega), if_neg (by omega), if_neg (by omega),
        if_neg (by omega), if_pos (by omega), hvalue]
    · show 128 ≤ _
      omega
    · show _ ≤ 191
      omega

/-- What begins a character of four bytes, and that the second byte of it is in its range. -/
theorem lead_four {v : Nat} (least : 0x10000 ≤ v) (valid : v.isValidChar) :
    ∃ low high, lead (UInt8.ofNat (v / 262144 % 8 + 240)) = .more ⟨v / 262144, 3, low, high⟩ ∧
      low.toNat ≤ v / 4096 % 64 + 128 ∧ v / 4096 % 64 + 128 ≤ high.toNat := by
  have hmost : v < 0x110000 := by
    rcases valid with hlow | hhigh
    · omega
    · omega
  rw [lead_byte (by omega)]
  -- The first and the last lead byte narrow the byte after them.
  by_cases hzero : v / 262144 = 0
  · refine ⟨0x90, 0xBF, ?_, ?_, ?_⟩
    · simp [hzero]
    · show 144 ≤ _
      omega
    · show _ ≤ 191
      omega
  by_cases hlast : v / 262144 = 4
  · refine ⟨0x80, 0x8F, ?_, ?_, ?_⟩
    · simp [hlast]
    · show 128 ≤ _
      omega
    · show _ ≤ 143
      omega
  · refine ⟨0x80, 0xBF, ?_, ?_, ?_⟩
    · have hvalue : v / 262144 % 8 + 240 - 0xF0 = v / 262144 := by omega
      rw [if_neg (by omega), if_neg (by omega), if_neg (by omega), if_neg (by omega),
        if_neg (by omega), if_neg (by omega), if_neg (by omega), if_pos (by omega), hvalue]
    · show 128 ≤ _
      omega
    · show _ ≤ 191
      omega

/-- The bytes of a character are read as that character. -/
theorem decodeFrom_utf8EncodeChar (c : Char) (bs : List UInt8) :
    decodeFrom none (String.utf8EncodeChar c ++ bs) = some c :: decodeFrom none bs := by
  have hvalid : c.toNat.isValidChar := c.valid
  have hchar {v : Nat} (hv : v = c.toNat) : Char.ofNat v = c := by rw [hv, Char.ofNat_toNat]
  have hval : c.val.toNat = c.toNat := rfl
  unfold String.utf8EncodeChar
  simp only [hval]
  -- By the number of bytes: one, two, three or four.
  by_cases hone : c.toNat ≤ 127
  · rw [if_pos hone, List.singleton_append, decodeFrom, lead_byte (by omega), if_pos (by omega)]
    simp only [Char.ofNat_toNat]
  rw [if_neg hone]
  by_cases htwo : c.toNat ≤ 2047
  · have hlead : lead (UInt8.ofNat (c.toNat / 64 % 32 + 192)) =
        .more ⟨c.toNat / 64, 1, 0x80, 0xBF⟩ := by
      have hvalue : c.toNat / 64 % 32 + 192 - 0xC0 = c.toNat / 64 := by omega
      rw [lead_byte (by omega), if_neg (by omega), if_neg (by omega), if_pos (by omega), hvalue]
    rw [if_pos htwo, List.cons_append, List.singleton_append, decodeFrom, hlead]
    simp only
    rw [decodeFrom_last (by omega), hchar (by omega)]
  rw [if_neg htwo]
  by_cases hthree : c.toNat ≤ 65535
  · obtain ⟨low, high, hlead, hlow, hhigh⟩ := lead_three (by omega) (by omega) hvalid
    rw [if_pos hthree, List.cons_append, List.cons_append, List.singleton_append, decodeFrom, hlead]
    simp only
    rw [decodeFrom_more (by omega) (by omega) hlow hhigh, decodeFrom_last (by omega),
      hchar (by omega)]
  · obtain ⟨low, high, hlead, hlow, hhigh⟩ := lead_four (by omega) hvalid
    rw [if_neg hthree, List.cons_append, List.cons_append, List.cons_append, List.singleton_append,
      decodeFrom, hlead]
    simp only
    rw [decodeFrom_more (by omega) (by omega) hlow hhigh,
      decodeFrom_more (by omega) (by omega) (by show 128 ≤ _; omega) (by show _ ≤ 191; omega),
      decodeFrom_last (by omega), hchar]
    rcases hvalid with hlow | hhigh
    · omega
    · omega

/-! ## Texts -/

theorem pieces_encode (s : List Char) : pieces (encode s) = s.map some := by
  unfold pieces
  induction s with
  | nil => rfl
  | cons c cs ih =>
    have hencode : encode (c :: cs) = String.utf8EncodeChar c ++ encode cs := rfl
    rw [hencode, decodeFrom_utf8EncodeChar, ih, List.map_cons]

/-- The strict reader takes a text from its bytes. -/
theorem decode?_encode (s : List Char) : decode? (encode s) = some s := by
  unfold decode?
  rw [pieces_encode]
  induction s with
  | nil => rfl
  | cons c cs ih => rw [List.map_cons, List.mapM_cons, ih]; rfl

/-- So does the lossy one, which loses nothing. -/
theorem decodeLossy_encode (s : List Char) : decodeLossy (encode s) = s := by
  unfold decodeLossy
  rw [pieces_encode, List.map_map]
  exact List.map_id s

end TokenIssuer.Utf8
