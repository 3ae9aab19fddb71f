import TokenIssuer.Uuid
import TokenIssuer.Proofs.Hex

/-! The ways to write an identifier, and that all of them are read as that identifier. -/

namespace TokenIssuer.Uuid

variable {u : Uuid} {s : List Char}

/-- The marks that may stand before an identifier. -/
def marks : List String := ["", "urn:", "uuid:", "urn:uuid:"]

/-- A way to write an identifier: its thirty-two digits in letters of either case, with hyphens
anywhere or nowhere; braces around them, a mark before them, and blanks around everything. -/
inductive Spells (u : Uuid) : List Char → Prop where
  | intro {left opening body closing right : List Char} {mark : String}
      (blankLeft : ∀ c ∈ left, Text.isBlank c) (blankRight : ∀ c ∈ right, Text.isBlank c)
      (marked : mark ∈ marks) (opened : ∀ c ∈ opening, c = '{' ∨ c = '}')
      (closed : ∀ c ∈ closing, c = '{' ∨ c = '}')
      (digits : Text.lowerAscii (body.filter (· ≠ '-')) = Text.hexDigits 32 u.bits.toNat) :
      Spells u (left ++ (mark.toList ++ (opening ++ body ++ closing)) ++ right)

/-- The marks before a text without a colon are taken away. -/
theorem replace_marks {mark : String} (hm : mark ∈ marks) (hs : ':' ∉ s) :
    Text.replace "uuid:".toList [] (Text.replace "urn:".toList [] (mark.toList ++ s)) = s := by
  have hurn : Text.Avoids "urn:".toList s := Text.avoids_of_not_mem (by decide) hs
  have huuid : Text.Avoids "uuid:".toList s := Text.avoids_of_not_mem (by decide) hs
  -- A mark of both kinds: what is left of the first one does not begin again inside the second.
  have hmixed : Text.Avoids "urn:".toList ("uuid:".toList ++ s) := by
    intro t ht hne
    rcases List.suffix_cons_iff.mp ht with rfl | ht
    · rfl
    rcases List.suffix_cons_iff.mp ht with rfl | ht
    · rfl
    rcases List.suffix_cons_iff.mp ht with rfl | ht
    · rfl
    rcases List.suffix_cons_iff.mp ht with rfl | ht
    · rfl
    rcases List.suffix_cons_iff.mp ht with rfl | ht
    · rfl
    exact hurn t ht hne
  have hlast : Text.replace "uuid:".toList [] ("uuid:".toList ++ s) = s :=
    Text.replace_prefix [] (by decide) huuid
  simp only [marks, List.mem_cons, List.not_mem_nil, or_false] at hm
  rcases hm with rfl | rfl | rfl | rfl
  · show Text.replace _ [] (Text.replace _ [] s) = s
    rw [Text.replace_eq_self [] hurn, Text.replace_eq_self [] huuid]
  · rw [Text.replace_prefix [] (by decide) hurn]
    exact Text.replace_eq_self [] huuid
  · rw [Text.replace_eq_self [] hmixed, hlast]
  · show Text.replace _ [] (Text.replace _ [] ("urn:".toList ++ ("uuid:".toList ++ s))) = s
    rw [Text.replace_prefix [] (by decide) hmixed]
    exact hlast

/-- A text whose digits are those of an identifier is read as it. -/
theorem read?_of_bare (h : Text.lowerAscii (bare s) = Text.hexDigits 32 u.bits.toNat) :
    read? s = some u := by
  have hlength : (bare s).length = 32 := by
    have hl := congrArg List.length h
    rwa [Text.lowerAscii, List.length_map, Text.length_hexDigits] at hl
  have hne : bare s ≠ [] := by
    intro hnil
    rw [hnil] at hlength
    exact absurd hlength (by decide)
  have hbound : u.bits.toNat < Nat.pow 16 32 := u.bits.isLt
  have hread := Number.readHex?_of_hex hne (Text.isSome_hexValue?_of_lower h)
  rw [Number.ofDigits_of_lower hbound h] at hread
  unfold read? read
  simp only [hlength, if_true, hread, BitVec.ofNat_toNat, BitVec.setWidth_eq]
  rfl

section Parts

variable {left opening body closing right : List Char} {mark : String}

/-- The digits of an identifier may have hyphens between them, and nothing else. -/
theorem hyphen_or_hex
    (digits : Text.lowerAscii (body.filter (· ≠ '-')) = Text.hexDigits 32 u.bits.toNat) :
    ∀ c ∈ body, c = '-' ∨ (Text.hexValue? c).isSome := by
  intro c hc
  by_cases hh : c = '-'
  · exact .inl hh
  · right
    apply Text.isSome_hexValue?_of_lower digits
    exact List.mem_filter.mpr ⟨hc, by simpa using hh⟩

theorem ne_nil_of_digits
    (digits : Text.lowerAscii (body.filter (· ≠ '-')) = Text.hexDigits 32 u.bits.toNat) :
    body ≠ [] := by
  rintro rfl
  have hl := congrArg List.length digits
  rw [Text.length_hexDigits] at hl
  exact absurd hl (by decide)

/-- Nothing but the digits is left when mark, braces and hyphens are taken away. -/
theorem bare_of_parts (marked : mark ∈ marks) (opened : ∀ c ∈ opening, c = '{' ∨ c = '}')
    (closed : ∀ c ∈ closing, c = '{' ∨ c = '}')
    (inside : ∀ c ∈ body, c = '-' ∨ (Text.hexValue? c).isSome) (hne : body ≠ []) :
    bare (mark.toList ++ (opening ++ body ++ closing)) = body.filter (· ≠ '-') := by
  -- The marks are found by their colons, and no other part has one.
  have hcolon : ':' ∉ opening ++ body ++ closing := by
    simp only [List.mem_append, not_or]
    refine ⟨⟨fun hc => ?_, fun hc => ?_⟩, fun hc => ?_⟩
    · exact absurd (opened _ hc) (by decide)
    · exact absurd (inside _ hc) (by decide)
    · exact absurd (closed _ hc) (by decide)
  have hbody (c : Char) (hc : c ∈ body) : (decide (c = '{') || decide (c = '}')) = false := by
    rcases inside c hc with rfl | hx
    · rfl
    · have hn := Text.ne_of_hexValue? hx
      simp only [List.mem_cons, not_or] at hn
      simp [hn]
  have hmargin (c : Char) (hc : c = '{' ∨ c = '}') :
      (decide (c = '{') || decide (c = '}')) = true := by
    rcases hc with rfl | rfl <;> rfl
  have hinner := Text.dropAround_between opening closing (fun c hc => hmargin c (opened c hc))
    (fun c hc => hmargin c (closed c hc)) hne (hbody _ (List.head_mem hne))
    (hbody _ (List.getLast_mem hne))
  unfold bare
  rw [replace_marks marked hcolon]
  exact congrArg (List.filter (· ≠ '-')) hinner

/-- Nothing of a written identifier is taken for a blank around it. -/
theorem trim_of_parts (blankLeft : ∀ c ∈ left, Text.isBlank c)
    (blankRight : ∀ c ∈ right, Text.isBlank c) (marked : mark ∈ marks)
    (opened : ∀ c ∈ opening, c = '{' ∨ c = '}') (closed : ∀ c ∈ closing, c = '{' ∨ c = '}')
    (inside : ∀ c ∈ body, c = '-' ∨ (Text.hexValue? c).isSome) (hne : body ≠ []) :
    Text.trim (left ++ (mark.toList ++ (opening ++ body ++ closing)) ++ right) =
      mark.toList ++ (opening ++ body ++ closing) := by
  have hmark : ∀ mark ∈ marks, mark.toList.all fun c => Text.isBlank c = false := by decide
  have hmiddle : ∀ c ∈ mark.toList ++ (opening ++ body ++ closing), Text.isBlank c = false := by
    intro c hc
    simp only [List.mem_append] at hc
    rcases hc with hc | (hc | hc) | hc
    · exact List.all_iff_forall_prop.mp (hmark mark marked) c hc
    · rcases opened c hc with rfl | rfl <;> rfl
    · rcases inside c hc with rfl | hx
      · rfl
      · exact Text.isBlank_of_hexValue? hx
    · rcases closed c hc with rfl | rfl <;> rfl
  have hmiddleNe : mark.toList ++ (opening ++ body ++ closing) ≠ [] := by simp [hne]
  exact Text.dropAround_between left right blankLeft blankRight hmiddleNe
    (hmiddle _ (List.head_mem hmiddleNe)) (hmiddle _ (List.getLast_mem hmiddleNe))

end Parts

/-- Every way to write an identifier is read as it, blanks around it aside. -/
theorem read?_of_spells (h : Spells u s) : read? (Text.trim s) = some u := by
  cases h with
  | intro blankLeft blankRight marked opened closed digits =>
    have hinside := hyphen_or_hex digits
    have hne := ne_nil_of_digits digits
    rw [trim_of_parts blankLeft blankRight marked opened closed hinside hne]
    apply read?_of_bare
    rw [bare_of_parts marked opened closed hinside hne]
    exact digits

/-- The five groups put together again. -/
theorem append_groups (ds : List Char) :
    ds.take 8 ++ ((ds.drop 8).take 4 ++ ((ds.drop 12).take 4 ++
      ((ds.drop 16).take 4 ++ ds.drop 20))) = ds := by
  have hnext (k m : Nat) : (ds.drop k).take m ++ ds.drop (k + m) = ds.drop k := by
    rw [← List.drop_drop, List.take_append_drop]
  rw [hnext 16 4, hnext 12 4, hnext 8 4, List.take_append_drop]

/-- Without its hyphens the canonical form is the digits. -/
theorem filter_chars (u : Uuid) :
    u.chars.filter (· ≠ '-') = Text.hexDigits 32 u.bits.toNat := by
  have hhex := Text.isSome_hexValue?_of_lower (Text.lowerAscii_hexDigits 32 u.bits.toNat)
  have hfilter (t : List Char) (ht : t.Sublist (Text.hexDigits 32 u.bits.toNat)) :
      t.filter (· ≠ '-') = t := by
    rw [List.filter_eq_self]
    intro c hc
    have hn := Text.ne_of_hexValue? (hhex c (ht.subset hc))
    simp only [List.mem_cons, not_or] at hn
    simp [hn]
  have hgroup (t : List Char) (ht : t.Sublist (Text.hexDigits 32 u.bits.toNat)) :
      ('-' :: t).filter (· ≠ '-') = t := by
    rw [List.filter_cons_of_neg (by decide), hfilter t ht]
  have hdrop (k : Nat) := List.drop_sublist k (Text.hexDigits 32 u.bits.toNat)
  have hmiddle (k : Nat) := (List.take_sublist 4 _).trans (hdrop k)
  unfold chars
  simp only [List.filter_append]
  rw [hfilter _ (List.take_sublist 8 _), hgroup _ (hmiddle 8), hgroup _ (hmiddle 12),
    hgroup _ (hmiddle 16), hgroup _ (hdrop 20)]
  simp only [List.append_assoc]
  exact append_groups _

theorem length_chars (u : Uuid) : u.chars.length = 36 := by
  unfold chars
  simp [Text.length_hexDigits]

/-- The canonical form is made of hexadecimal digits and hyphens. -/
theorem hyphen_or_hex_of_mem_chars {c : Char} (h : c ∈ u.chars) :
    c = '-' ∨ (Text.hexValue? c).isSome := by
  have hdigits : Text.lowerAscii (u.chars.filter (· ≠ '-')) =
      Text.hexDigits 32 u.bits.toNat := by
    rw [filter_chars, Text.lowerAscii_hexDigits]
  exact hyphen_or_hex hdigits c h

/-- The canonical form is one of the ways to write an identifier. -/
theorem spells_chars (u : Uuid) : Spells u u.chars := by
  have hdigits : Text.lowerAscii (u.chars.filter (· ≠ '-')) =
      Text.hexDigits 32 u.bits.toNat := by
    rw [filter_chars, Text.lowerAscii_hexDigits]
  have hspells : Spells u ([] ++ ("".toList ++ ([] ++ u.chars ++ [])) ++ []) :=
    .intro (by simp) (by simp) (by decide) (by simp) (by simp) hdigits
  simpa using hspells

end TokenIssuer.Uuid
