import TokenIssuer.Net.Address
import TokenIssuer.Proofs.Hex
import TokenIssuer.Proofs.Number

/-!
The parts of internet addresses: the bytes of version 4, which are written in one way only, and the
groups of version 6, which leave open the case of the digits and the zeros in front, and the last
two of which may look like version 4.
-/

namespace TokenIssuer.Net.Address

open Text

variable {s : List Char} {groups : List UInt16} {pieces : List (List Char)}

/-! ## Version 4 -/

theorem eq_toDigits_of_readOctet? {x : UInt8} (h : readOctet? s = some x) :
    s = Nat.toDigits 10 x.toNat := by
  unfold readOctet? at h
  obtain ⟨digits, hdigits, h⟩ := Option.bind_eq_some_iff.mp h
  obtain ⟨hs, hsmall⟩ := Number.eq_map_of_mapM hdigits
  split at h
  next => cases h
  next hfew =>
    simp only at h
    split at h
    next hbound =>
      obtain rfl := Option.some.inj h
      rw [UInt8.toNat_ofNat_of_lt' hbound]
      cases digits with
      | nil => exact absurd rfl hfew
      | cons d ds =>
        -- A zero in front of other digits does not pass the test, so the digits are those printed.
        have hhead : d ≠ 0 ∨ ds = [] := by
          by_contra hboth
          rw [not_or, not_not] at hboth
          obtain ⟨rfl, hds⟩ := hboth
          have hlong := List.length_pos_iff.mpr hds
          simp [hlong] at hfew
        rw [Number.toDigits_ofDigits hsmall hhead, hs]
    next => cases h

/-- A byte is written in decimal without zeros in front. -/
theorem readOctet?_eq_some_iff {x : UInt8} :
    readOctet? s = some x ↔ s = Nat.toDigits 10 x.toNat := by
  constructor
  · exact eq_toDigits_of_readOctet?
  · rintro rfl
    -- The test for zeros in front reads the digits; to run it on each byte is simpler than to
    -- reason about the first digit that is printed.
    have hall : ∀ n < 0x100, readOctet? (Nat.toDigits 10 n) = some (UInt8.ofNat n) := by
      decide +kernel
    rw [hall x.toNat x.toNat_lt, UInt8.ofNat_toNat]

theorem readV4?_chars (a b c d : UInt8) : readV4? (v4 a b c d).chars = some (a, b, c, d) := by
  have hdot : ∀ piece ∈ [a, b, c, d].map fun x => Nat.toDigits 10 x.toNat, '.' ∉ piece := by
    intro piece hpiece hmem
    obtain ⟨x, -, rfl⟩ := List.mem_map.mp hpiece
    exact absurd (Nat.isDigit_of_mem_toDigits (by omega) (by omega) hmem) (by decide)
  have hread (x : UInt8) : readOctet? (Nat.toDigits 10 x.toNat) = some x :=
    readOctet?_eq_some_iff.mpr rfl
  unfold readV4? chars
  rw [splitOn_join (by simp) hdot]
  simp [hread]

/-- An address of version 4 is written in one way only. -/
theorem readV4?_eq_some_iff {a b c d : UInt8} :
    readV4? s = some (a, b, c, d) ↔ s = (v4 a b c d).chars := by
  constructor
  · intro h
    unfold readV4? at h
    split at h
    next w x y z hpieces =>
      obtain ⟨_, hw, h⟩ := Option.bind_eq_some_iff.mp h
      obtain ⟨_, hx, h⟩ := Option.bind_eq_some_iff.mp h
      obtain ⟨_, hy, h⟩ := Option.bind_eq_some_iff.mp h
      obtain ⟨_, hz, h⟩ := Option.bind_eq_some_iff.mp h
      cases h
      rw [← join_splitOn '.' s, hpieces, readOctet?_eq_some_iff.mp hw,
        readOctet?_eq_some_iff.mp hx, readOctet?_eq_some_iff.mp hy, readOctet?_eq_some_iff.mp hz]
      rfl
    next => cases h
  · rintro rfl
    exact readV4?_chars a b c d

/-- Digits and dots stand in an address of version 4, and nothing else. -/
theorem dot_or_hex_of_mem_v4 {a b c d : UInt8} {x : Char} (h : x ∈ (v4 a b c d).chars) :
    x = '.' ∨ (hexValue? x).isSome := by
  rcases mem_join h with hdot | ⟨piece, hpiece, hx⟩
  · exact .inl (List.mem_singleton.mp hdot)
  · obtain ⟨byte, -, rfl⟩ := List.mem_map.mp hpiece
    have hdigit := Nat.isDigit_of_mem_toDigits (by omega) (by omega) hx
    rw [Char.isDigit, Bool.and_eq_true, decide_eq_true_eq, decide_eq_true_eq] at hdigit
    have hvalue : hexValue? x = some (x.toNat - '0'.toNat) := if_pos hdigit
    exact .inr (Option.isSome_of_eq_some hvalue)

theorem dot_mem_v4 (a b c d : UInt8) : '.' ∈ (v4 a b c d).chars := by
  show '.' ∈ Nat.toDigits 10 a.toNat ++ ['.'] ++ _
  simp

/-! ## Groups -/

/-- A piece spells a group: it has one to four hexadecimal digits, and in lower case with zeros in
front they are the four digits of the group. -/
structure SpellsGroup (piece : List Char) (g : UInt16) : Prop where
  ne_nil : piece ≠ []
  digits : List.replicate (4 - piece.length) '0' ++ lowerAscii piece = hexDigits 4 g.toNat

namespace SpellsGroup

variable {piece : List Char} {g : UInt16}

theorem lower_padded (h : SpellsGroup piece g) :
    lowerAscii (List.replicate (4 - piece.length) '0' ++ piece) = hexDigits 4 g.toNat := by
  rw [← h.digits, lowerAscii, List.map_append, List.map_replicate]
  rfl

theorem isHex (h : SpellsGroup piece g) : ∀ c ∈ piece, (hexValue? c).isSome := fun c hc =>
  isSome_hexValue?_of_lower h.lower_padded c (List.mem_append_right _ hc)

theorem length_le (h : SpellsGroup piece g) : piece.length ≤ 4 := by
  have hlength := congrArg List.length h.digits
  rw [List.length_append, List.length_replicate, length_hexDigits, lowerAscii,
    List.length_map] at hlength
  omega

theorem ofDigits_eq (h : SpellsGroup piece g) :
    Number.ofDigits 16 (piece.map Number.hexValue) = g.toNat := by
  have hvalue := Number.ofDigits_of_lower g.toNat_lt h.lower_padded
  rwa [List.map_append, List.map_replicate, show Number.hexValue '0' = 0 from rfl,
    Number.ofDigits_zeros] at hvalue

end SpellsGroup

theorem readGroup?_eq_some_iff {piece : List Char} {g : UInt16} :
    readGroup? piece = some g ↔ SpellsGroup piece g := by
  constructor
  · intro h
    unfold readGroup? at h
    obtain ⟨digits, hdigits, h⟩ := Option.bind_eq_some_iff.mp h
    obtain ⟨hhex, rfl⟩ := Number.mapM_hexValue?_eq_some_iff.mp hdigits
    split at h
    next => cases h
    next hfew =>
      obtain rfl := Option.some.inj h
      simp only [List.isEmpty_map, List.length_map, Bool.or_eq_true, List.isEmpty_iff,
        decide_eq_true_eq, not_or, Nat.not_lt] at hfew
      obtain ⟨hne, hlength⟩ := hfew
      -- Four digits fit in two bytes, so that nothing of the value is cut off.
      have hpower : Nat.pow 16 piece.length ≤ Nat.pow 16 4 :=
        Nat.pow_le_pow_right (by decide) hlength
      have hbound : Number.ofDigits 16 (piece.map Number.hexValue) < 2 ^ 16 :=
        Nat.lt_of_lt_of_le (Number.ofDigits_lt hhex) hpower
      refine ⟨hne, ?_⟩
      rw [UInt16.toNat_ofNat', Nat.mod_eq_of_lt hbound, Number.hexDigits_ofDigits hhex hlength]
  · intro h
    have hread := Number.mapM_hexValue?_eq_some_iff.mpr ⟨h.isHex, rfl⟩
    have hfew : ¬ ((piece.map Number.hexValue).isEmpty ||
        decide (4 < (piece.map Number.hexValue).length)) = true := by
      simp [h.ne_nil, h.length_le]
    unfold readGroup?
    rw [hread]
    simp only [Option.bind_eq_bind, Option.bind_some, if_neg hfew, h.ofDigits_eq,
      UInt16.ofNat_toNat]

/-- The group of two bytes. -/
def ofBytes (a b : UInt8) : UInt16 := UInt16.ofNat (a.toNat * 256 + b.toNat)

/-- The pieces between colons spell groups: each piece spells one, but for the last piece, which may
spell two in the form of version 4. -/
inductive SpellsGroups : List (List Char) → List UInt16 → Prop where
  | plain {pieces : List (List Char)} {groups : List UInt16}
      (each : List.Forall₂ SpellsGroup pieces groups) : SpellsGroups pieces groups
  | dotted {pieces : List (List Char)} {groups : List UInt16}
      (each : List.Forall₂ SpellsGroup pieces groups) (a b c d : UInt8) :
      SpellsGroups (pieces ++ [(v4 a b c d).chars]) (groups ++ [ofBytes a b, ofBytes c d])

theorem mapM_readGroup?_eq_some_iff :
    pieces.mapM readGroup? = some groups ↔ List.Forall₂ SpellsGroup pieces groups := by
  rw [mapM_eq_some_iff]
  simp only [readGroup?_eq_some_iff]

theorem readGroups?_concat (front : List (List Char)) (last : List Char) :
    readGroups? (front ++ [last]) =
      if last.contains '.' then do
        let (a, b, c, d) ← readV4? last
        let groups ← front.mapM readGroup?
        pure (groups ++ [ofBytes a b, ofBytes c d])
      else (front ++ [last]).mapM readGroup? := by
  simp only [readGroups?, List.reverse_append, List.reverse_singleton, List.singleton_append,
    List.reverse_reverse, ofBytes]

theorem hex_of_mem_plain (h : List.Forall₂ SpellsGroup pieces groups) :
    ∀ piece ∈ pieces, piece ≠ [] ∧ ∀ c ∈ piece, (hexValue? c).isSome :=
  ((List.forall₂_and_left _ _).mp (h.imp fun _ _ hg => ⟨⟨hg.ne_nil, hg.isHex⟩, hg⟩)).1

theorem readGroups?_eq_some_iff :
    readGroups? pieces = some groups ↔ SpellsGroups pieces groups := by
  -- The reader looks for a dot in the last piece alone, so the pieces are taken apart from the end.
  constructor
  · intro h
    rcases List.eq_nil_or_concat' pieces with rfl | ⟨front, last, rfl⟩
    · obtain rfl := Option.some.inj h
      exact .plain .nil
    · rw [readGroups?_concat] at h
      split at h
      next =>
        obtain ⟨⟨a, b, c, d⟩, hlast, h⟩ := Option.bind_eq_some_iff.mp h
        obtain ⟨first, hfront, h⟩ := Option.bind_eq_some_iff.mp h
        obtain rfl := Option.some.inj h
        rw [readV4?_eq_some_iff.mp hlast]
        exact .dotted (mapM_readGroup?_eq_some_iff.mp hfront) a b c d
      next => exact .plain (mapM_readGroup?_eq_some_iff.mp h)
  · rintro (hplain | ⟨heach, a, b, c, d⟩)
    · rcases List.eq_nil_or_concat' pieces with rfl | ⟨front, last, rfl⟩
      · cases hplain
        rfl
      · have hlast := hex_of_mem_plain hplain last (List.mem_append_right _ List.mem_cons_self)
        have hdot : last.contains '.' = false := by
          rw [Bool.eq_false_iff, ne_eq, List.contains_iff_mem]
          exact fun hmem => absurd (hlast.2 '.' hmem) (by decide)
        rw [readGroups?_concat, hdot, if_neg Bool.false_ne_true]
        exact mapM_readGroup?_eq_some_iff.mpr hplain
    · have hdot : (v4 a b c d).chars.contains '.' = true :=
        List.contains_iff_mem.mpr (dot_mem_v4 a b c d)
      rw [readGroups?_concat, if_pos hdot, readV4?_chars, mapM_readGroup?_eq_some_iff.mpr heach]
      rfl

theorem SpellsGroups.of_mem (h : SpellsGroups pieces groups) :
    ∀ piece ∈ pieces, piece ≠ [] ∧ ∀ c ∈ piece, c = '.' ∨ (hexValue? c).isSome := by
  have hplain {pieces : List (List Char)} {groups : List UInt16}
      (each : List.Forall₂ SpellsGroup pieces groups) :
      ∀ piece ∈ pieces, piece ≠ [] ∧ ∀ c ∈ piece, c = '.' ∨ (hexValue? c).isSome :=
    fun piece hpiece => (hex_of_mem_plain each piece hpiece).imp_right fun hhex c hc =>
      .inr (hhex c hc)
  cases h with
  | plain each => exact hplain each
  | dotted each a b c d =>
    refine List.forall_mem_append.mpr ⟨hplain each, List.forall_mem_singleton.mpr ⟨?_, ?_⟩⟩
    · exact List.ne_nil_of_mem (dot_mem_v4 a b c d)
    · exact fun x hx => dot_or_hex_of_mem_v4 hx

theorem SpellsGroups.colon_notMem (h : SpellsGroups pieces groups) :
    ∀ piece ∈ pieces, ':' ∉ piece := by
  intro piece hpiece hcolon
  rcases (h.of_mem piece hpiece).2 ':' hcolon with hdot | hhex
  · exact absurd hdot (by decide)
  · exact absurd hhex (by decide)

theorem SpellsGroups.nil_notMem (h : SpellsGroups pieces groups) : [] ∉ pieces :=
  fun hnil => (h.of_mem [] hnil).1 rfl

/-- Only the form of version 4 spells more than one group with a piece, and it has dots. -/
theorem SpellsGroups.plain_of_dotless (h : SpellsGroups pieces groups)
    (dotless : ∀ piece ∈ pieces, '.' ∉ piece) : List.Forall₂ SpellsGroup pieces groups := by
  cases h with
  | plain each => exact each
  | dotted each a b c d =>
    exact absurd (dot_mem_v4 a b c d) (dotless _ (List.mem_append_right _ List.mem_cons_self))

theorem SpellsGroups.length_le (h : SpellsGroups pieces groups) :
    groups.length ≤ pieces.length + 1 := by
  cases h with
  | plain each =>
    rw [each.length_eq]
    omega
  | dotted each a b c d =>
    rw [List.length_append, List.length_append, each.length_eq]
    exact Nat.le_refl _

end TokenIssuer.Net.Address
