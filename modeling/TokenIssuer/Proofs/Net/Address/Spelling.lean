import TokenIssuer.Proofs.Net.Address.Parts

/-!
The ways to write an internet address, where a run of zero groups may be left out and a zone may
follow. What is read as an address is what is written in one of these ways.
-/

namespace TokenIssuer.Net.Address

open Text

variable {s : List Char} {groups : List UInt16} {pieces : List (List Char)}

/-! ## Version 6 -/

/-- The ways to write eight groups: all of them, or with a run of zero groups left out. -/
inductive SpellsV6 : List Char → List UInt16 → Prop where
  | whole {pieces : List (List Char)} {groups : List UInt16} (each : SpellsGroups pieces groups)
      (eight : groups.length = 8) : SpellsV6 (join [':'] pieces) groups
  | gapped {front back : List (List Char)} {high low : List UInt16} {zeros : Nat}
      (first : List.Forall₂ SpellsGroup front high) (last : SpellsGroups back low)
      (leaves : 0 < zeros) (eight : high.length + zeros + low.length = 8) :
      SpellsV6 (join [':'] front ++ ':' :: ':' :: join [':'] back)
        (high ++ List.replicate zeros 0 ++ low)

theorem SpellsV6.length_eq (h : SpellsV6 s groups) : groups.length = 8 := by
  cases h with
  | whole each eight => exact eight
  | gapped first last leaves eight =>
    rw [List.length_append, List.length_append, List.length_replicate]
    exact eight

theorem eq_of_splitAtGap {front back : List (List Char)}
    (h : splitAtGap pieces = some (front, back)) :
    pieces = front ++ [] :: back ∧ front ≠ [] ∧ back ≠ [] := by
  -- The search carries the pieces it has passed, and begins with the first one passed.
  have hgo (passed rest : List (List Char)) (h : splitAtGap.go passed rest = some (front, back)) :
      ∃ middle, rest = middle ++ [] :: back ∧ front = passed ++ middle ∧ back ≠ [] := by
    fun_induction splitAtGap.go passed rest with
    | case1 => cases h
    | case2 => cases h
    | case3 passed p q ps hp =>
      cases h
      exact ⟨[], by rw [List.isEmpty_iff.mp hp, List.nil_append], (List.append_nil _).symm,
        List.cons_ne_nil q ps⟩
    | case4 passed p q ps _ ih =>
      obtain ⟨middle, hrest, hfront, hback⟩ := ih h
      exact ⟨p :: middle, by rw [hrest, List.cons_append],
        by rw [hfront, List.append_assoc, List.singleton_append], hback⟩
  cases pieces with
  | nil => cases h
  | cons p ps =>
    obtain ⟨middle, rfl, rfl, hback⟩ := hgo [p] ps h
    exact ⟨rfl, List.cons_ne_nil p middle, hback⟩

/-- The first empty piece between others is found. -/
theorem splitAtGap_append {front back : List (List Char)} (hfront : front ≠ [])
    (first : [] ∉ front.tail) (hback : back ≠ []) :
    splitAtGap (front ++ [] :: back) = some (front, back) := by
  have hgo (passed middle : List (List Char)) (hmiddle : [] ∉ middle) :
      splitAtGap.go passed (middle ++ [] :: back) = some (passed ++ middle, back) := by
    induction middle generalizing passed with
    | nil =>
      obtain ⟨q, ps, rfl⟩ := List.exists_cons_of_ne_nil hback
      rw [List.nil_append, splitAtGap.go, List.append_nil]
      rfl
    | cons p middle ih =>
      rw [List.mem_cons, not_or] at hmiddle
      obtain ⟨q, ps, hrest⟩ : ∃ q ps, middle ++ [] :: back = q :: ps :=
        List.exists_cons_of_ne_nil (by simp)
      have hp : p.isEmpty = false := by
        rw [Bool.eq_false_iff, ne_eq, List.isEmpty_iff]
        exact Ne.symm hmiddle.1
      rw [List.cons_append, hrest, splitAtGap.go, hp, if_neg Bool.false_ne_true, ← hrest,
        ih _ hmiddle.2, List.append_assoc, List.singleton_append]
  obtain ⟨p, middle, rfl⟩ := List.exists_cons_of_ne_nil hfront
  exact hgo [p] middle first

/-- The groups on one side of what is left out: none where the side is empty. -/
def readSide? (pieces : List (List Char)) : Option (List UInt16) :=
  if pieces = [[]] then some [] else readGroups? pieces

theorem readSide?_join (h : SpellsGroups pieces groups) :
    readSide? (splitOn ':' (join [':'] pieces)) = some groups := by
  unfold readSide?
  by_cases hne : pieces = []
  · subst hne
    have hgroups : some [] = some groups := readGroups?_eq_some_iff.mpr h
    exact hgroups
  · have hgap : pieces ≠ [[]] := by
      rintro rfl
      exact h.nil_notMem List.mem_cons_self
    rw [splitOn_join hne h.colon_notMem, if_neg hgap]
    exact readGroups?_eq_some_iff.mpr h

theorem exists_of_readSide? (h : readSide? pieces = some groups) :
    ∃ parts, SpellsGroups parts groups ∧ join [':'] parts = join [':'] pieces ∧
      ∀ part ∈ parts, part ∈ pieces := by
  unfold readSide? at h
  split at h
  next hgap =>
    obtain rfl := Option.some.inj h
    exact ⟨[], .plain .nil, by rw [hgap]; rfl, List.forall_mem_nil _⟩
  next => exact ⟨pieces, readGroups?_eq_some_iff.mp h, rfl, fun _ hpart => hpart⟩

theorem readV6Groups?_of_gap {front back : List (List Char)}
    (gap : splitAtGap (splitOn ':' s) = some (front, back)) :
    readV6Groups? s = (readSide? front).bind fun high => (readSide? back).bind fun low =>
      if front.any (·.contains '.') then none
      else if high.length + low.length < 8 then
        some (high ++ List.replicate (8 - high.length - low.length) 0 ++ low)
      else none := by
  obtain ⟨hpieces, hfront, hback⟩ := eq_of_splitAtGap gap
  have hmany : ¬ (splitOn ':' s).length < 3 := by
    have hpositive := List.length_pos_iff.mpr hfront
    have hbehind := List.length_pos_iff.mpr hback
    rw [hpieces, List.length_append, List.length_cons]
    omega
  unfold readV6Groups? readSide?
  simp only [if_neg hmany, gap]
  split <;> split <;> rfl

theorem readV6Groups?_of_no_gap (gap : splitAtGap (splitOn ':' s) = none) :
    readV6Groups? s =
      if (splitOn ':' s).length < 3 then none
      else (readGroups? (splitOn ':' s)).bind fun groups =>
        if groups.length = 8 then some groups else none := by
  unfold readV6Groups?
  simp only [gap]
  rfl

theorem spells_of_readV6Groups? (h : readV6Groups? s = some groups) : SpellsV6 s groups := by
  cases hgap : splitAtGap (splitOn ':' s) with
  | none =>
    rw [readV6Groups?_of_no_gap hgap] at h
    split at h
    next => cases h
    next =>
      obtain ⟨found, hfound, h⟩ := Option.bind_eq_some_iff.mp h
      split at h
      next eight =>
        obtain rfl := Option.some.inj h
        rw [← join_splitOn ':' s]
        exact .whole (readGroups?_eq_some_iff.mp hfound) eight
      next => cases h
  | some sides =>
    obtain ⟨front, back⟩ := sides
    rw [readV6Groups?_of_gap hgap] at h
    obtain ⟨high, hhigh, h⟩ := Option.bind_eq_some_iff.mp h
    obtain ⟨low, hlow, h⟩ := Option.bind_eq_some_iff.mp h
    split at h
    next => cases h
    next hdot =>
      split at h
      next hfew =>
        obtain rfl := Option.some.inj h
        obtain ⟨hpieces, hfront, hback⟩ := eq_of_splitAtGap hgap
        obtain ⟨first, hfirst, hjoinFirst, hsub⟩ := exists_of_readSide? hhigh
        obtain ⟨last, hlast, hjoinLast, -⟩ := exists_of_readSide? hlow
        -- The form of version 4 may only be the last piece of all, and here more pieces follow.
        have hdotless : ∀ part ∈ first, '.' ∉ part := fun part hpart hmem =>
          hdot (List.any_eq_true.mpr ⟨part, hsub part hpart, List.contains_iff_mem.mpr hmem⟩)
        have hbehind : join [':'] ([] :: back) = ':' :: join [':'] back :=
          join_append (List.cons_ne_nil [] []) hback
        have hs : s = join [':'] first ++ ':' :: ':' :: join [':'] last := by
          rw [← join_splitOn ':' s, hpieces, join_append hfront (List.cons_ne_nil [] back),
            hbehind, hjoinFirst, hjoinLast]
          rfl
        rw [hs]
        exact .gapped (hfirst.plain_of_dotless hdotless) hlast (by omega) (by omega)
      next => cases h

theorem readV6Groups?_of_whole (each : SpellsGroups pieces groups) (eight : groups.length = 8) :
    readV6Groups? (join [':'] pieces) = some groups := by
  have hlength := each.length_le
  have hne : pieces ≠ [] := by
    rintro rfl
    rw [eight] at hlength
    exact absurd hlength (by decide)
  have hsplit := splitOn_join hne each.colon_notMem
  -- Nothing is left out where no piece is empty.
  have hgap : splitAtGap (splitOn ':' (join [':'] pieces)) = none := by
    rw [hsplit, Option.eq_none_iff_forall_ne_some]
    rintro ⟨front, back⟩ hfound
    apply each.nil_notMem
    rw [(eq_of_splitAtGap hfound).1]
    exact List.mem_append_right _ List.mem_cons_self
  have hmany : ¬ pieces.length < 3 := by omega
  rw [readV6Groups?_of_no_gap hgap, hsplit, if_neg hmany, readGroups?_eq_some_iff.mpr each,
    Option.bind_some, if_pos eight]

theorem readV6Groups?_of_gapped {front back : List (List Char)} {high low : List UInt16}
    {zeros : Nat} (first : List.Forall₂ SpellsGroup front high) (last : SpellsGroups back low)
    (leaves : 0 < zeros) (eight : high.length + zeros + low.length = 8) :
    readV6Groups? (join [':'] front ++ ':' :: ':' :: join [':'] back) =
      some (high ++ List.replicate zeros 0 ++ low) := by
  have hplain := SpellsGroups.plain first
  have hpieces : splitOn ':' (join [':'] front ++ ':' :: ':' :: join [':'] back) =
      splitOn ':' (join [':'] front) ++ [] :: splitOn ':' (join [':'] back) := by
    rw [splitOn_append_cons]
    exact congrArg _ (splitOn_append_cons ':' [] _)
  -- The pieces in front are those that were joined, or an empty one where there are none.
  have hfront : [] ∉ (splitOn ':' (join [':'] front)).tail ∧
      ((splitOn ':' (join [':'] front)).any fun piece => piece.contains '.') = false := by
    by_cases hne : front = []
    · rw [hne]
      exact ⟨List.not_mem_nil, rfl⟩
    · rw [splitOn_join hne hplain.colon_notMem]
      refine ⟨fun hmem => hplain.nil_notMem (List.mem_of_mem_tail hmem), ?_⟩
      rw [List.any_eq_false]
      intro piece hpiece hdot
      have hhex := (hex_of_mem_plain first piece hpiece).2 '.' (List.contains_iff_mem.mp hdot)
      exact absurd hhex (by decide)
  have hgap := splitAtGap_append (splitOn_ne_nil ':' (join [':'] front)) hfront.1
    (splitOn_ne_nil ':' (join [':'] back))
  have hfew : high.length + low.length < 8 := by omega
  have hzeros : 8 - high.length - low.length = zeros := by omega
  rw [readV6Groups?_of_gap (hpieces ▸ hgap), readSide?_join hplain, readSide?_join last,
    Option.bind_some, Option.bind_some, hfront.2, if_neg Bool.false_ne_true, if_pos hfew, hzeros]

theorem readV6Groups?_eq_some_iff : readV6Groups? s = some groups ↔ SpellsV6 s groups := by
  constructor
  · exact spells_of_readV6Groups?
  · rintro (⟨each, eight⟩ | ⟨first, last, leaves, eight⟩)
    · exact readV6Groups?_of_whole each eight
    · exact readV6Groups?_of_gapped first last leaves eight

/-- Digits, dots and colons stand in the groups of version 6, and nothing else. -/
theorem SpellsV6.mem_cases (h : SpellsV6 s groups) {c : Char} (hc : c ∈ s) :
    c = ':' ∨ c = '.' ∨ (hexValue? c).isSome := by
  have hjoined {pieces : List (List Char)} {groups : List UInt16}
      (each : SpellsGroups pieces groups) (hc : c ∈ join [':'] pieces) :
      c = ':' ∨ c = '.' ∨ (hexValue? c).isSome := by
    rcases mem_join hc with hcolon | ⟨piece, hpiece, hc⟩
    · exact .inl (List.mem_singleton.mp hcolon)
    · exact .inr ((each.of_mem piece hpiece).2 c hc)
  cases h with
  | whole each eight => exact hjoined each hc
  | gapped first last leaves eight =>
    rcases List.mem_append.mp hc with hc | hc
    · exact hjoined (.plain first) hc
    rcases List.mem_cons.mp hc with hcolon | hc
    · exact .inl hcolon
    rcases List.mem_cons.mp hc with hcolon | hc
    · exact .inl hcolon
    · exact hjoined last hc

theorem SpellsV6.notMem (h : SpellsV6 s groups) {c : Char} (colon : c ≠ ':') (dot : c ≠ '.')
    (hex : (hexValue? c).isSome = false) : c ∉ s := by
  intro hc
  rcases h.mem_cases hc with h | h | h
  · exact colon h
  · exact dot h
  · rw [hex] at h
    cases h

theorem SpellsV6.colon_mem (h : SpellsV6 s groups) : ':' ∈ s := by
  cases h with
  | @whole pieces groups each eight =>
    -- The last piece may spell two of the eight groups, the others spell one each.
    have hmany : 7 ≤ pieces.length := by
      have hlength := each.length_le
      omega
    match pieces, hmany with
    | [], hmany => exact absurd hmany (by decide)
    | [only], hmany => exact absurd hmany (by simp)
    | p :: q :: ps, _ =>
      exact List.mem_append_left _ (List.mem_append_right p List.mem_cons_self)
  | gapped first last leaves eight => exact List.mem_append_right _ List.mem_cons_self

/-! ## Addresses -/

/-- A text spells an address. A zone follows the groups after a percent sign and may be anything
without another one and without a slash. -/
inductive Spells : List Char → Address → Prop where
  | v4 (a b c d : UInt8) : Spells (v4 a b c d).chars (.v4 a b c d)
  | v6 {s : List Char} {groups : List UInt16} (written : SpellsV6 s groups) :
      Spells s (.v6 groups none)
  | zoned {s zone : List Char} {groups : List UInt16} (written : SpellsV6 s groups)
      (named : zone ≠ []) (percent : '%' ∉ zone) (slash : '/' ∉ zone) :
      Spells (s ++ '%' :: zone) (.v6 groups (some zone))

theorem notMem_v4 {a b c d : UInt8} {x : Char} (dot : x ≠ '.')
    (hex : (hexValue? x).isSome = false) : x ∉ (v4 a b c d).chars := by
  intro hx
  rcases dot_or_hex_of_mem_v4 hx with h | h
  · exact dot h
  · rw [hex] at h
    cases h

theorem readV4?_eq_none {x : Char} (hx : x ∈ s) (dot : x ≠ '.')
    (hex : (hexValue? x).isSome = false) : readV4? s = none := by
  rw [Option.eq_none_iff_forall_ne_some]
  rintro ⟨a, b, c, d⟩ hread
  rw [readV4?_eq_some_iff.mp hread] at hx
  exact notMem_v4 dot hex hx

theorem read?_of_slash_notMem (h : '/' ∉ s) :
    read? s = match readV4? s with
      | some (a, b, c, d) => some (.v4 a b c d)
      | none => readV6? s :=
  if_neg fun hslash => h (List.contains_iff_mem.mp hslash)

theorem read?_of_spells {a : Address} (h : Spells s a) : read? s = some a := by
  cases h with
  | v4 a b c d =>
    rw [read?_of_slash_notMem (notMem_v4 (by decide) rfl), readV4?_chars]
  | v6 written =>
    have hslash := written.notMem (c := '/') (by decide) (by decide) rfl
    have hcut := cut_of_notMem (written.notMem (c := '%') (by decide) (by decide) rfl)
    rw [read?_of_slash_notMem hslash, readV4?_eq_none written.colon_mem (by decide) rfl]
    simp only [readV6?, hcut, readV6Groups?_eq_some_iff.mpr written, Option.map_some]
  | @zoned front zone groups written named percent slash =>
    have hslash : '/' ∉ front ++ '%' :: zone := by
      simp only [List.mem_append, List.mem_cons, not_or]
      exact ⟨written.notMem (by decide) (by decide) rfl, by decide, slash⟩
    have hcut : cut '%' (front ++ '%' :: zone) = (front, some zone) :=
      cut_eq_some_iff.mpr ⟨rfl, written.notMem (by decide) (by decide) rfl⟩
    have hzone : ¬ (zone.isEmpty || zone.contains '%') = true := by
      simp [named, percent]
    rw [read?_of_slash_notMem hslash,
      readV4?_eq_none (List.mem_append_left _ written.colon_mem) (by decide) rfl]
    simp only [readV6?, hcut, if_neg hzone, readV6Groups?_eq_some_iff.mpr written,
      Option.map_some]

theorem spells_of_readV6? {a : Address} (slash : '/' ∉ s) (h : readV6? s = some a) :
    Spells s a := by
  unfold readV6? at h
  split at h
  next groups hcut =>
    obtain ⟨rfl, -⟩ := cut_eq_none_iff.mp hcut
    obtain ⟨groups, hgroups, rfl⟩ := Option.map_eq_some_iff.mp h
    exact .v6 (readV6Groups?_eq_some_iff.mp hgroups)
  next front zone hcut =>
    obtain ⟨rfl, -⟩ := cut_eq_some_iff.mp hcut
    split at h
    next => cases h
    next hzone =>
      obtain ⟨groups, hgroups, rfl⟩ := Option.map_eq_some_iff.mp h
      rw [Bool.or_eq_true, not_or, List.isEmpty_iff, List.contains_iff_mem] at hzone
      exact .zoned (readV6Groups?_eq_some_iff.mp hgroups) hzone.1 hzone.2
        fun hmem => slash (List.mem_append_right _ (List.mem_cons_of_mem _ hmem))

/-- What is read as an address is what spells it. -/
theorem read?_eq_some_iff {a : Address} : read? s = some a ↔ Spells s a := by
  refine ⟨fun h => ?_, read?_of_spells⟩
  by_cases hslash : '/' ∈ s
  · have hnone : read? s = none := if_pos (List.contains_iff_mem.mpr hslash)
    rw [hnone] at h
    cases h
  · rw [read?_of_slash_notMem hslash] at h
    split at h
    next a b c d hread =>
      obtain rfl := Option.some.inj h
      rw [readV4?_eq_some_iff.mp hread]
      exact .v4 a b c d
    next => exact spells_of_readV6? hslash h

end TokenIssuer.Net.Address
