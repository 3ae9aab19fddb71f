import TokenIssuer.Proofs.Net.Address.Spelling

/-!
Canonical texts. An address is written in one of the ways in which it is read, so that its text is
read as the address again, and two texts have the same canonical text exactly when they name the
same address.
-/

namespace TokenIssuer.Net

open Text

namespace Address

variable {s : List Char} {groups : List UInt16} {a b : Address} {shown other : String}

/-! ## The text of an address -/

theorem takeWhile_beq {α : Type} [BEq α] [LawfulBEq α] (x : α) (l : List α) :
    l.takeWhile (· == x) = List.replicate (l.takeWhile (· == x)).length x :=
  List.eq_replicate_iff.mpr ⟨rfl, fun y hy =>
    eq_of_beq (List.all_eq_true.mp (List.all_takeWhile (p := (· == x))) y hy)⟩

theorem spellsGroup_groupChars (g : UInt16) : SpellsGroup (groupChars g) g := by
  have hdigits := List.takeWhile_append_dropWhile (p := (· == '0')) (l := hexDigits 4 g.toNat)
  have hlength := congrArg List.length hdigits
  rw [List.length_append, length_hexDigits] at hlength
  rw [takeWhile_beq] at hdigits
  unfold groupChars
  split
  next hnone =>
    rw [hnone, List.length_nil, Nat.add_zero] at hlength
    rw [hnone, List.append_nil, hlength] at hdigits
    exact ⟨List.cons_ne_nil _ _, hdigits⟩
  next digits hsome =>
    -- What is left after the zeros is in lower case, like all digits of the group.
    have hcase := lowerAscii_hexDigits 4 g.toNat
    rw [← hdigits, lowerAscii, List.map_append] at hcase
    have hlower : lowerAscii ((hexDigits 4 g.toNat).dropWhile (· == '0')) = _ :=
      List.append_inj_right hcase (List.length_map _)
    have hcount : 4 - ((hexDigits 4 g.toNat).dropWhile (· == '0')).length =
        ((hexDigits 4 g.toNat).takeWhile (· == '0')).length := by omega
    exact ⟨hsome, by rw [hlower, hcount, hdigits]⟩

/-- What stands in the place that is told is a run of zeros of the size that is told. -/
theorem eq_append_of_longestZeros {place size : Nat} (h : longestZeros groups = (place, size)) :
    groups = groups.take place ++ List.replicate size 0 ++ groups.drop (place + size) := by
  -- The run either begins with the first group or is that of the rest, one place further on.
  induction groups generalizing place size with
  | nil =>
    cases h
    rfl
  | cons g gs ih =>
    rw [longestZeros] at h
    simp only at h
    split at h
    next =>
      obtain ⟨rfl, rfl⟩ := Prod.mk.inj h
      have hstart : (g :: gs).takeWhile (· == 0) <+: g :: gs := List.takeWhile_prefix _
      have hrun : List.replicate (zeroRun (g :: gs)) 0 = (g :: gs).take (zeroRun (g :: gs)) :=
        (takeWhile_beq 0 (g :: gs)).symm.trans (List.prefix_iff_eq_take.mp hstart)
      rw [Nat.zero_add, List.take_zero, List.nil_append, hrun, List.take_append_drop]
    next =>
      obtain ⟨rfl, rfl⟩ := Prod.mk.inj h
      rw [Nat.add_right_comm, List.take_succ_cons, List.drop_succ_cons, List.cons_append,
        List.cons_append, ← ih rfl]

theorem plain_map_groupChars (groups : List UInt16) :
    List.Forall₂ SpellsGroup (groups.map groupChars) groups :=
  List.forall₂_map_left_iff.mpr (List.forall₂_same.mpr fun g _ => spellsGroup_groupChars g)

theorem spellsV6_groupsChars (eight : groups.length = 8) :
    SpellsV6 (groupsChars groups) groups := by
  unfold groupsChars
  simp only
  split
  next => exact .whole (.plain (plain_map_groupChars groups)) eight
  next hmany =>
    have hgroups := eq_append_of_longestZeros (rfl : longestZeros groups = longestZeros groups)
    have hlength := congrArg List.length hgroups
    rw [List.length_append, List.length_append, List.length_replicate, eight] at hlength
    -- What is printed on both sides of the gap is what the groups hold there.
    conv => rhs; rw [hgroups]
    exact .gapped (plain_map_groupChars _) (.plain (plain_map_groupChars _)) (by omega)
      hlength.symm

theorem chars_unzoned (groups : List UInt16) :
    (Address.v6 groups none).chars = groupsChars groups := List.append_nil _

/-- An address that is spelled in some way is spelled by what is printed for it. -/
theorem spells_chars (h : Spells s a) : Spells a.chars a := by
  cases h with
  | v4 a b c d => exact .v4 a b c d
  | v6 written =>
    rw [chars_unzoned]
    exact .v6 (spellsV6_groupsChars written.length_eq)
  | zoned written named percent slash =>
    exact .zoned (spellsV6_groupsChars written.length_eq) named percent slash

def text (a : Address) : String := String.ofList a.chars

/-! ## Texts with blanks around them -/

/-- A text names an address: it spells the address, with or without blanks around it. A blank at the
end is never one of the zone. -/
inductive Names : String → Address → Prop where
  | intro {left body right : List Char} {a : Address} (blankLeft : Blank left)
      (blankRight : Blank right) (spells : Spells body a)
      (last : ∀ c ∈ body.getLast?, isBlank c = false) :
      Names (String.ofList (left ++ body ++ right)) a

theorem SpellsV6.isBlank_of_mem (h : SpellsV6 s groups) {c : Char} (hc : c ∈ s) :
    isBlank c = false := by
  rcases h.mem_cases hc with rfl | rfl | hhex
  · rfl
  · rfl
  · exact isBlank_of_hexValue? hhex

theorem isBlank_of_mem_v4 {a b c d : UInt8} {x : Char} (hx : x ∈ (v4 a b c d).chars) :
    isBlank x = false := by
  rcases dot_or_hex_of_mem_v4 hx with rfl | hhex
  · rfl
  · exact isBlank_of_hexValue? hhex

/-- No spelling begins with a blank. -/
theorem Spells.head (h : Spells s a) : ∃ c cs, s = c :: cs ∧ isBlank c = false := by
  have hwritten {s : List Char} {groups : List UInt16} (h : SpellsV6 s groups) :
      ∃ c cs, s = c :: cs ∧ isBlank c = false := by
    obtain ⟨c, cs, rfl⟩ := List.exists_cons_of_ne_nil (List.ne_nil_of_mem h.colon_mem)
    exact ⟨c, cs, rfl, h.isBlank_of_mem List.mem_cons_self⟩
  cases h with
  | v4 a b c d =>
    obtain ⟨x, xs, hx⟩ := List.exists_cons_of_ne_nil (List.ne_nil_of_mem (dot_mem_v4 a b c d))
    exact ⟨x, xs, hx, isBlank_of_mem_v4 (hx ▸ List.mem_cons_self)⟩
  | v6 written => exact hwritten written
  | zoned written named percent slash =>
    obtain ⟨c, cs, rfl, hc⟩ := hwritten written
    exact ⟨c, _, List.cons_append, hc⟩

theorem names_iff : Names shown a ↔ Spells (trim shown.toList) a := by
  constructor
  · rintro ⟨blankLeft, blankRight, spells, last⟩
    obtain ⟨c, cs, rfl, hc⟩ := spells.head
    have hlast := last _ (List.getLast?_eq_getLast_of_ne_nil (List.cons_ne_nil c cs))
    have htrim := dropAround_between _ _ blankLeft blankRight (List.cons_ne_nil c cs) hc hlast
    rw [String.toList_ofList, trim, htrim]
    exact spells
  · intro h
    obtain ⟨left, right, hleft, hright, hshown⟩ := exists_dropAround isBlank shown.toList
    obtain ⟨c, cs, hcs, -⟩ := h.head
    have hne : trim shown.toList ≠ [] := by
      rw [hcs]
      exact List.cons_ne_nil c cs
    have hwhole : String.ofList (left ++ trim shown.toList ++ right) = shown :=
      (congrArg String.ofList hshown.symm).trans String.ofList_toList
    rw [← hwhole]
    refine .intro hleft hright h fun last hlast => ?_
    rw [List.getLast?_eq_getLast_of_ne_nil hne, Option.mem_some_iff] at hlast
    rw [← hlast]
    exact getLast_dropAround hne

theorem read?_eq_some_iff_names : read? (trim shown.toList) = some a ↔ Names shown a :=
  read?_eq_some_iff.trans names_iff.symm

/-- A text names one address at most. -/
theorem Names.unique (ha : Names shown a) (hb : Names shown b) : a = b :=
  Option.some.inj ((read?_eq_some_iff_names.mpr ha).symm.trans (read?_eq_some_iff_names.mpr hb))

/-- A zone ends the text of an address as it ends every spelling, and no blank stands in what comes
before it. -/
theorem last_chars {body : List Char} (spells : Spells body a)
    (last : ∀ c ∈ body.getLast?, isBlank c = false) :
    ∀ c ∈ a.chars.getLast?, isBlank c = false := by
  cases spells with
  | v4 a b c d => exact last
  | v6 written =>
    intro c hc
    rw [chars_unzoned] at hc
    exact (spellsV6_groupsChars written.length_eq).isBlank_of_mem (List.mem_of_getLast? hc)
  | @zoned _ zone groups written named percent slash =>
    have hchars : (Address.v6 groups (some zone)).chars = groupsChars groups ++ '%' :: zone := rfl
    rw [hchars, List.getLast?_append_cons]
    rwa [List.getLast?_append_cons] at last

/-- The text of an address that has a name is another name of it. -/
theorem Names.text (h : Names shown a) : Names a.text a := by
  obtain ⟨-, -, spells, last⟩ := h
  have hname := Names.intro (List.forall_mem_nil _) (List.forall_mem_nil _) (spells_chars spells)
    (last_chars spells last)
  rwa [List.nil_append, List.append_nil] at hname

/-- Addresses that have names are told apart by their texts. -/
theorem Names.eq_of_text (ha : Names shown a) (hb : Names other b) (h : a.text = b.text) : a = b :=
  ha.text.unique (h ▸ hb.text)

end Address

theorem canonical?_eq_some_iff {shown text : String} :
    canonical? shown = some text ↔ ∃ a, Address.Names shown a ∧ a.text = text := by
  unfold canonical?
  rw [Option.map_eq_some_iff]
  simp only [Address.read?_eq_some_iff_names, Address.text]

theorem canonical?_of_names {shown : String} {a : Address} (h : Address.Names shown a) :
    canonical? shown = some a.text :=
  canonical?_eq_some_iff.mpr ⟨a, h, rfl⟩

/-- A canonical text stands for itself. -/
theorem canonical?_canonical {shown text : String} (h : canonical? shown = some text) :
    canonical? text = some text := by
  obtain ⟨a, hname, rfl⟩ := canonical?_eq_some_iff.mp h
  exact canonical?_of_names hname.text

theorem canonical?_eq_none_iff {shown : String} :
    canonical? shown = none ↔ ∀ a, ¬ Address.Names shown a := by
  simp only [Option.eq_none_iff_forall_ne_some, ne_eq, canonical?_eq_some_iff, not_exists, not_and]
  exact ⟨fun h a hname => h a.text a hname rfl, fun h _ a hname => absurd hname (h a)⟩

/-- Blanks around a text make no difference. -/
theorem canonical?_congr {one other : String} (h : trim one.toList = trim other.toList) :
    canonical? one = canonical? other := by
  unfold canonical?
  rw [h]

end TokenIssuer.Net
