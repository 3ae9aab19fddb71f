import TokenIssuer.Proofs.Utf8

/-!
A text is read from its own bytes and from no others, so that reading loses nothing exactly when the
bytes are those of a text.
-/

namespace TokenIssuer.Utf8

/-- The bytes are those of a text. -/
def WellFormed (bs : List UInt8) : Prop := ∃ s, bs = encode s

/-! ## What begins a character -/

/-- What a byte between characters begins: a character of its own, or one of several bytes. The
range of the second byte leaves out what fewer bytes would do for, the surrogates, and what lies
past the last character. -/
inductive Begins (b : UInt8) : Lead → Prop where
  | one (ascii : b.toNat < 0x80) : Begins b (.char (Char.ofNat b.toNat))
  | two (least : 0xC2 ≤ b.toNat) (most : b.toNat ≤ 0xDF) :
      Begins b (.more ⟨b.toNat - 0xC0, 1, 0x80, 0xBF⟩)
  | three {low high : UInt8} (least : 0xE0 ≤ b.toNat) (most : b.toNat ≤ 0xEF)
      (follows : 0x80 ≤ low.toNat ∧ high.toNat ≤ 0xBF)
      (shortest : b.toNat = 0xE0 → 0xA0 ≤ low.toNat)
      (surrogate : b.toNat = 0xED → high.toNat ≤ 0x9F) :
      Begins b (.more ⟨b.toNat - 0xE0, 2, low, high⟩)
  | four {low high : UInt8} (least : 0xF0 ≤ b.toNat) (most : b.toNat ≤ 0xF4)
      (follows : 0x80 ≤ low.toNat ∧ high.toNat ≤ 0xBF)
      (shortest : b.toNat = 0xF0 → 0x90 ≤ low.toNat)
      (last : b.toNat = 0xF4 → high.toNat ≤ 0x8F) :
      Begins b (.more ⟨b.toNat - 0xF0, 3, low, high⟩)
  | bad : Begins b .bad

theorem begins_lead (b : UInt8) : Begins b (lead b) := by
  have follows : 0x80 ≤ (0x80 : UInt8).toNat ∧ (0xBF : UInt8).toNat ≤ 0xBF := by decide
  rw [← UInt8.ofNat_toNat (x := b), lead_byte b.toNat_lt, UInt8.ofNat_toNat]
  by_cases hone : b.toNat < 0x80
  · rw [if_pos hone]
    exact .one hone
  rw [if_neg hone]
  by_cases hstray : b.toNat < 0xC2
  · rw [if_pos hstray]
    exact .bad
  rw [if_neg hstray]
  by_cases htwo : b.toNat < 0xE0
  · rw [if_pos htwo]
    exact .two (by omega) (by omega)
  rw [if_neg htwo]
  -- Of the bytes that begin three or four, the first and another one have ranges of their own.
  by_cases hE0 : b.toNat = 0xE0
  · have hvalue : 0 = b.toNat - 0xE0 := by omega
    rw [if_pos hE0, hvalue]
    exact .three (by omega) (by omega) (by decide) (fun _ => by decide) (fun _ => by omega)
  rw [if_neg hE0]
  by_cases hED : b.toNat = 0xED
  · have hvalue : 0xD = b.toNat - 0xE0 := by omega
    rw [if_pos hED, hvalue]
    exact .three (by omega) (by omega) (by decide) (fun _ => by omega) (fun _ => by decide)
  rw [if_neg hED]
  by_cases hthree : b.toNat < 0xF0
  · rw [if_pos hthree]
    exact .three (by omega) (by omega) follows (fun _ => by omega) (fun _ => by omega)
  rw [if_neg hthree]
  by_cases hF0 : b.toNat = 0xF0
  · have hvalue : 0 = b.toNat - 0xF0 := by omega
    rw [if_pos hF0, hvalue]
    exact .four (by omega) (by omega) (by decide) (fun _ => by decide) (fun _ => by omega)
  rw [if_neg hF0]
  by_cases hfour : b.toNat < 0xF4
  · rw [if_pos hfour]
    exact .four (by omega) (by omega) follows (fun _ => by omega) (fun _ => by omega)
  rw [if_neg hfour]
  by_cases hF4 : b.toNat = 0xF4
  · have hvalue : 4 = b.toNat - 0xF0 := by omega
    rw [if_pos hF4, hvalue]
    exact .four (by omega) (by omega) (by decide) (fun _ => by omega) (fun _ => by decide)
  · rw [if_neg hF4]
    exact .bad

/-! ## What a character is written as -/

/-- A byte that goes on with a character. -/
def Follows (b : UInt8) : Prop := 0x80 ≤ b.toNat ∧ b.toNat ≤ 0xBF

theorem toNat_ofNat {v : Nat} (h : v.isValidChar) : (Char.ofNat v).toNat = v := by
  rw [Char.ofNat, dif_pos h]
  rfl

theorem ofNat_eq_byte {n : Nat} {b : UInt8} (h : n = b.toNat) : UInt8.ofNat n = b := by
  rw [h, UInt8.ofNat_toNat]

theorem encode_one {b : UInt8} (h : b.toNat < 0x80) :
    String.utf8EncodeChar (Char.ofNat b.toNat) = [b] := by
  have hchar : (Char.ofNat b.toNat).val.toNat = b.toNat := toNat_ofNat (.inl (by omega))
  unfold String.utf8EncodeChar
  simp only [hchar]
  rw [if_pos (by omega), UInt8.ofNat_toNat]

theorem encode_two {a b : UInt8} (ha : 0xC2 ≤ a.toNat ∧ a.toNat ≤ 0xDF) (hb : Follows b) :
    String.utf8EncodeChar (Char.ofNat ((a.toNat - 0xC0) * 64 + b.toNat % 64)) = [a, b] := by
  obtain ⟨hlow, hhigh⟩ := hb
  generalize hv : (a.toNat - 0xC0) * 64 + b.toNat % 64 = v
  have hchar : (Char.ofNat v).val.toNat = v := toNat_ofNat (.inl (by omega))
  unfold String.utf8EncodeChar
  simp only [hchar]
  rw [if_neg (by omega), if_pos (by omega), ofNat_eq_byte (b := a) (by omega),
    ofNat_eq_byte (b := b) (by omega)]

theorem encode_three {a b c : UInt8} (ha : 0xE0 ≤ a.toNat ∧ a.toNat ≤ 0xEF) (hb : Follows b)
    (shortest : a.toNat = 0xE0 → 0xA0 ≤ b.toNat) (surrogate : a.toNat = 0xED → b.toNat ≤ 0x9F)
    (hc : Follows c) :
    String.utf8EncodeChar
      (Char.ofNat (((a.toNat - 0xE0) * 64 + b.toNat % 64) * 64 + c.toNat % 64)) = [a, b, c] := by
  obtain ⟨hblow, hbhigh⟩ := hb
  obtain ⟨hclow, hchigh⟩ := hc
  generalize hv : ((a.toNat - 0xE0) * 64 + b.toNat % 64) * 64 + c.toNat % 64 = v
  have hvalid : v.isValidChar := by
    unfold Nat.isValidChar
    omega
  have hchar : (Char.ofNat v).val.toNat = v := toNat_ofNat hvalid
  unfold String.utf8EncodeChar
  simp only [hchar]
  rw [if_neg (by omega), if_neg (by omega), if_pos (by omega), ofNat_eq_byte (b := a) (by omega),
    ofNat_eq_byte (b := b) (by omega), ofNat_eq_byte (b := c) (by omega)]

theorem encode_four {a b c d : UInt8} (ha : 0xF0 ≤ a.toNat ∧ a.toNat ≤ 0xF4) (hb : Follows b)
    (shortest : a.toNat = 0xF0 → 0x90 ≤ b.toNat) (last : a.toNat = 0xF4 → b.toNat ≤ 0x8F)
    (hc : Follows c) (hd : Follows d) :
    String.utf8EncodeChar
      (Char.ofNat ((((a.toNat - 0xF0) * 64 + b.toNat % 64) * 64 + c.toNat % 64) * 64 +
        d.toNat % 64)) = [a, b, c, d] := by
  obtain ⟨hblow, hbhigh⟩ := hb
  obtain ⟨hclow, hchigh⟩ := hc
  obtain ⟨hdlow, hdhigh⟩ := hd
  generalize hv : (((a.toNat - 0xF0) * 64 + b.toNat % 64) * 64 + c.toNat % 64) * 64 +
    d.toNat % 64 = v
  -- The value is in range by what the first byte allows of the second.
  have hvalid : v.isValidChar := by
    unfold Nat.isValidChar
    omega
  have hchar : (Char.ofNat v).val.toNat = v := toNat_ofNat hvalid
  unfold String.utf8EncodeChar
  simp only [hchar]
  rw [if_neg (by omega), if_neg (by omega), if_neg (by omega), ofNat_eq_byte (b := a) (by omega),
    ofNat_eq_byte (b := b) (by omega), ofNat_eq_byte (b := c) (by omega),
    ofNat_eq_byte (b := d) (by omega)]

/-! ## What is read without a mark -/

variable {bs : List UInt8} {s : List Char}

/-- A character under way that is not marked goes on with a byte in its range. -/
theorem of_decodeFrom_some {p : Pending} (h : decodeFrom (some p) bs = s.map some) :
    ∃ b rest, bs = b :: rest ∧ p.low.toNat ≤ b.toNat ∧ b.toNat ≤ p.high.toNat ∧
      (p.owed ≤ 1 → ∃ cs, s = Char.ofNat (p.value * 64 + b.toNat % 64) :: cs ∧
        decodeFrom none rest = cs.map some) ∧
      (1 < p.owed → decodeFrom
        (some ⟨p.value * 64 + b.toNat % 64, p.owed - 1, 0x80, 0xBF⟩) rest = s.map some) := by
  cases bs with
  | nil => cases s <;> cases h
  | cons b rest =>
    rw [decodeFrom] at h
    by_cases hrange : p.low ≤ b ∧ b ≤ p.high
    · rw [if_pos hrange] at h
      refine ⟨b, rest, rfl, UInt8.le_iff_toNat_le.mp hrange.1, UInt8.le_iff_toNat_le.mp hrange.2,
        fun hlast => ?_, fun hmore => ?_⟩
      · simp only [if_pos hlast] at h
        obtain ⟨c, cs, rfl, hc, hcs⟩ := List.map_eq_cons_iff.mp h.symm
        exact ⟨cs, by rw [Option.some.inj hc], hcs.symm⟩
      · simp only [if_neg (Nat.not_le.mpr hmore)] at h
        exact h
    · -- A byte out of the range marks what came before it as ill-formed.
      rw [if_neg hrange] at h
      cases s <;> cases h

theorem of_decodeFrom_last {value : Nat} {low high : UInt8}
    (h : decodeFrom (some ⟨value, 1, low, high⟩) bs = s.map some) :
    ∃ b rest cs, bs = b :: rest ∧ low.toNat ≤ b.toNat ∧ b.toNat ≤ high.toNat ∧
      s = Char.ofNat (value * 64 + b.toNat % 64) :: cs ∧ decodeFrom none rest = cs.map some := by
  obtain ⟨b, rest, hbs, hlow, hhigh, hlast, -⟩ := of_decodeFrom_some h
  obtain ⟨cs, hs, hcs⟩ := hlast (Nat.le_refl 1)
  exact ⟨b, rest, cs, hbs, hlow, hhigh, hs, hcs⟩

theorem of_decodeFrom_more {value owed : Nat} {low high : UInt8}
    (h : decodeFrom (some ⟨value, owed + 2, low, high⟩) bs = s.map some) :
    ∃ b rest, bs = b :: rest ∧ low.toNat ≤ b.toNat ∧ b.toNat ≤ high.toNat ∧
      decodeFrom (some ⟨value * 64 + b.toNat % 64, owed + 1, 0x80, 0xBF⟩) rest = s.map some := by
  obtain ⟨b, rest, hbs, hlow, hhigh, -, hmore⟩ := of_decodeFrom_some h
  exact ⟨b, rest, hbs, hlow, hhigh, hmore (Nat.lt_add_left owed (Nat.lt_succ_self 1))⟩

/-- Bytes that are read without a mark are those of the text that is read. -/
theorem encode_of_decodeFrom {bs : List UInt8} {s : List Char}
    (h : decodeFrom none bs = s.map some) : bs = encode s := by
  have hencode (c : Char) (cs : List Char) :
      encode (c :: cs) = String.utf8EncodeChar c ++ encode cs := rfl
  match bs with
  | [] =>
    cases s with
    | nil => rfl
    | cons c cs => cases h
  | a :: bs =>
    rw [decodeFrom] at h
    have hbegins := begins_lead a
    generalize lead a = begun at h hbegins
    -- The bytes of one character are taken off, by their number; the rest is shorter.
    cases hbegins with
    | bad => cases s <;> cases h
    | one ascii =>
      obtain ⟨c, cs, rfl, hc, hcs⟩ := List.map_eq_cons_iff.mp h.symm
      rw [hencode, Option.some.inj hc, encode_one ascii, ← encode_of_decodeFrom hcs.symm]
      rfl
    | two least most =>
      obtain ⟨b, rest, cs, rfl, hlow, hhigh, rfl, hcs⟩ := of_decodeFrom_last h
      rw [hencode, encode_two ⟨least, most⟩ ⟨hlow, hhigh⟩, ← encode_of_decodeFrom hcs]
      rfl
    | three least most follows shortest surrogate =>
      obtain ⟨b, bs, rfl, hblow, hbhigh, h⟩ := of_decodeFrom_more h
      obtain ⟨c, rest, cs, rfl, hclow, hchigh, rfl, hcs⟩ := of_decodeFrom_last h
      rw [hencode, encode_three ⟨least, most⟩ ⟨by omega, by omega⟩
        (fun ha => Nat.le_trans (shortest ha) hblow) (fun ha => Nat.le_trans hbhigh (surrogate ha))
        ⟨hclow, hchigh⟩, ← encode_of_decodeFrom hcs]
      rfl
    | four least most follows shortest last =>
      obtain ⟨b, bs, rfl, hblow, hbhigh, h⟩ := of_decodeFrom_more h
      obtain ⟨c, bs, rfl, hclow, hchigh, h⟩ := of_decodeFrom_more h
      obtain ⟨d, rest, cs, rfl, hdlow, hdhigh, rfl, hcs⟩ := of_decodeFrom_last h
      rw [hencode, encode_four ⟨least, most⟩ ⟨by omega, by omega⟩
        (fun ha => Nat.le_trans (shortest ha) hblow) (fun ha => Nat.le_trans hbhigh (last ha))
        ⟨hclow, hchigh⟩ ⟨hdlow, hdhigh⟩, ← encode_of_decodeFrom hcs]
      rfl
termination_by bs.length

/-! ## The two readers -/

theorem mapM_id_eq_some_iff {marked : List (Option Char)} :
    marked.mapM id = some s ↔ marked = s.map some := by
  induction marked generalizing s with
  | nil => cases s <;> simp
  | cons mark marked ih =>
    rw [List.mapM_cons]
    cases mark with
    | none => cases s <;> simp
    | some c =>
      simp only [id, Option.bind_eq_bind, Option.bind_some, Option.bind_eq_some_iff, ih]
      cases s with
      | nil => simp
      | cons d ds =>
        constructor
        · rintro ⟨more, hmore, he⟩
          cases he
          rw [hmore, List.map_cons]
        · intro h
          obtain ⟨hc, hmore⟩ := List.cons.inj h
          exact ⟨ds, hmore, by rw [Option.some.inj hc]; rfl⟩

/-- The strict reader takes exactly the bytes of texts, each as the text it belongs to. -/
theorem decode?_eq_some_iff : decode? bs = some s ↔ bs = encode s := by
  constructor
  · intro h
    exact encode_of_decodeFrom (mapM_id_eq_some_iff.mp h)
  · rintro rfl
    exact decode?_encode s

theorem decode?_eq_none_iff : decode? bs = none ↔ ¬ WellFormed bs := by
  unfold WellFormed
  simp only [Option.eq_none_iff_forall_ne_some, Ne, decode?_eq_some_iff, not_exists]

theorem encode_injective {s t : List Char} (h : encode s = encode t) : s = t := by
  have hs := decode?_encode s
  rw [h, decode?_encode] at hs
  exact (Option.some.inj hs).symm

/-- The lossy reader loses nothing of the bytes of a text, and something of all others. -/
theorem encode_decodeLossy_iff : encode (decodeLossy bs) = bs ↔ WellFormed bs := by
  constructor
  · intro h
    exact ⟨_, h.symm⟩
  · rintro ⟨s, rfl⟩
    rw [decodeLossy_encode]

theorem decodeLossy_ne_nil (h : bs ≠ []) : decodeLossy bs ≠ [] := by
  intro hnil
  have hpieces : decodeFrom none bs = ([] : List Char).map some := List.map_eq_nil_iff.mp hnil
  exact h (encode_of_decodeFrom hpieces)

/-- Where something is lost, U+FFFD stands for it. -/
theorem replacement_mem_decodeLossy (h : ¬ WellFormed bs) : '\uFFFD' ∈ decodeLossy bs := by
  have hmarked : none ∈ pieces bs := by
    apply Classical.byContradiction
    intro hnone
    apply h
    have hall : pieces bs = (decodeLossy bs).map some := by
      unfold decodeLossy
      rw [List.map_map]
      refine (List.map_id _).symm.trans (List.map_congr_left fun piece hpiece => ?_)
      cases piece with
      | none => exact absurd hpiece hnone
      | some c => rfl
    exact ⟨_, encode_of_decodeFrom hall⟩
  exact List.mem_map.mpr ⟨none, hmarked, rfl⟩

end TokenIssuer.Utf8
