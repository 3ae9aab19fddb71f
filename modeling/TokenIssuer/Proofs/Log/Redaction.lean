import Mathlib.Data.List.Forall2
import TokenIssuer.Log.Redaction
import TokenIssuer.Proofs.Text.Case

/-!
The names whose values are hidden: those that are listed, and those with certain words in them, in
letters of either case and with hyphens for underscores. The listed name that has a hyphen itself is
hidden in none of its spellings.
-/

namespace TokenIssuer.Log

variable {c d : Char} {before s word more part : List Char} {name : String}

/-! ## Spellings -/

/-- The characters are one letter, in either case, or each is a hyphen or an underscore. -/
def Alike (c d : Char) : Prop :=
  Text.lowerChar c = Text.lowerChar d ∨ (c = '-' ∨ c = '_') ∧ (d = '-' ∨ d = '_')

instance (c d : Char) : Decidable (Alike c d) := inferInstanceAs (Decidable (_ ∨ _))

/-- The names are spelled alike. -/
def SameName (name other : String) : Prop := List.Forall₂ Alike name.toList other.toList

instance (name other : String) : Decidable (SameName name other) :=
  inferInstanceAs (Decidable (List.Forall₂ _ _ _))

/-- Some part of the name is the word. -/
def Holds (name word : String) : Prop :=
  ∃ part, part <:+: name.toList ∧ List.Forall₂ Alike part word.toList

/-- Values under the name are hidden. -/
def Hidden (name : String) : Prop :=
  (∃ listed ∈ sensitiveNames, listed ≠ "set-cookie" ∧ SameName name listed) ∨
    ∃ word ∈ ["token", "password", "secret"], Holds name word

/-! ## What names are compared as -/

/-- The character stands for itself in what names are compared as. -/
def Plain (d : Char) : Prop := d.toNat < 0x80 ∧ d.toLower = d ∧ d ≠ '-'

instance (d : Char) : Decidable (Plain d) := inferInstanceAs (Decidable (_ ∧ _))

theorem Plain.lowerChar (h : Plain d) : Text.lowerChar d = [d] := by
  rw [Text.lowerChar_eq_toLower h.1, h.2.1]

/-- A character as it is compared between two texts, the first of which is given from its end. -/
def compared (before : List Char) (c : Char) (after : List Char) : List Char :=
  underscored (if c = '\u03A3' then [Text.lowerSigma before after] else Text.lowerChar c)

/-- A text as it is compared after another one, which is given from its end. -/
def normal (before s : List Char) : List Char := underscored (Text.lowerAfter before s)

theorem normal_cons (before : List Char) (c : Char) (cs : List Char) :
    normal before (c :: cs) = compared before c cs ++ normal (c :: before) cs :=
  List.map_append

theorem compared_cases (before : List Char) (c : Char) (after : List Char) :
    (∃ d, compared before c after = [d]) ∨ compared before c after = ['i', '\u0307'] := by
  unfold compared
  split
  · exact .inl ⟨_, rfl⟩
  · rcases Text.lowerChar_cases c with ⟨d, hd⟩ | hi
    · rw [hd]
      exact .inl ⟨_, rfl⟩
    · rw [hi]
      exact .inr (by decide)

theorem Plain.alike_iff (plain : Plain d) :
    Alike c d ↔ Text.lowerChar c = [d] ∨ c = '-' ∧ d = '_' := by
  have hmark : Text.lowerChar '_' = ['_'] := Text.lowerChar_eq_toLower (by decide)
  unfold Alike
  rw [plain.lowerChar]
  constructor
  · rintro (h | ⟨rfl | rfl, h⟩)
    · exact .inl h
    · exact .inr ⟨rfl, h.resolve_left plain.2.2⟩
    · rw [h.resolve_left plain.2.2]
      exact .inl hmark
  · rintro (h | ⟨rfl, rfl⟩)
    · exact .inl h
    · exact .inr ⟨.inl rfl, .inr rfl⟩

theorem underscored_lowerChar_eq_iff (plain : Plain d) :
    underscored (Text.lowerChar c) = [d] ↔ Text.lowerChar c = [d] ∨ c = '-' ∧ d = '_' := by
  have hmark : Text.lowerChar '-' = ['-'] := Text.lowerChar_eq_toLower (by decide)
  rcases Text.lowerChar_cases c with ⟨e, he⟩ | hi
  · rw [he]
    show [if e = '-' then '_' else e] = [d] ↔ _
    rw [List.singleton_inj, List.singleton_inj]
    split
    next hyphen =>
      -- Only the hyphen is a hyphen in lower case.
      subst hyphen
      have hc : c = '-' := Text.eq_of_lowerChar he (by decide)
      constructor
      · exact fun h => .inr ⟨hc, h.symm⟩
      · rintro (h | ⟨-, h⟩)
        · exact absurd h.symm plain.2.2
        · exact h.symm
    next other =>
      constructor
      · exact .inl
      · rintro (h | ⟨rfl, -⟩)
        · exact h
        · rw [hmark] at he
          exact absurd (List.singleton_inj.mp he).symm other
  · rw [hi]
    refine iff_of_false (fun h => nomatch h) ?_
    rintro (h | ⟨rfl, -⟩)
    · cases h
    · rw [hmark] at hi
      cases hi

theorem compared_eq_iff (plain : Plain d) (before after : List Char) :
    compared before c after = [d] ↔ Alike c d := by
  rw [plain.alike_iff]
  unfold compared
  split
  next hc =>
    -- Neither form of the capital sigma is in ASCII.
    have hfinal : ¬ '\u03C2'.toNat < 0x80 := by decide
    have hmedial : ¬ '\u03C3'.toNat < 0x80 := by decide
    have hsigma : Text.lowerChar '\u03A3' = ['\u03C3'] := by decide +kernel
    have hform : underscored [Text.lowerSigma before after] ≠ [d] := by
      unfold Text.lowerSigma
      intro he
      split at he
      · have hd : '\u03C2' = d := List.singleton_inj.mp he
        exact hfinal (hd ▸ plain.1)
      · have hd : '\u03C3' = d := List.singleton_inj.mp he
        exact hmedial (hd ▸ plain.1)
    subst hc
    rw [hsigma]
    refine iff_of_false hform ?_
    rintro (h | ⟨h, -⟩)
    · exact hmedial (List.singleton_inj.mp h ▸ plain.1)
    · exact absurd h (by decide)
  next => exact underscored_lowerChar_eq_iff plain

/-! ## Words in what names are compared as -/

theorem normal_eq_nil_iff : normal before s = [] ↔ s = [] := by
  cases s with
  | nil => exact iff_of_true rfl rfl
  | cons c cs =>
    rw [normal_cons]
    refine iff_of_false (fun h => ?_) (List.cons_ne_nil c cs)
    have hnil := (List.append_eq_nil_iff.mp h).1
    rcases compared_cases before c cs with ⟨d, hd⟩ | hi
    · rw [hd] at hnil
      cases hnil
    · rw [hi] at hnil
      cases hnil

/-- What a text is compared as begins with a word only where the text begins with the word. The
dotted capital letter is the one that could pass for an `i`. -/
theorem exists_of_normal_eq_append (plain : ∀ d ∈ word, Plain d) (whole : 'i' ∉ word ∨ more = [])
    (h : normal before s = word ++ more) :
    ∃ part rest, s = part ++ rest ∧ List.Forall₂ Alike part word ∧
      normal (part.reverse ++ before) rest = more := by
  induction s generalizing before word with
  | nil =>
    obtain ⟨rfl, rfl⟩ := List.append_eq_nil_iff.mp h.symm
    exact ⟨[], [], rfl, .nil, rfl⟩
  | cons c cs ih =>
    cases word with
    | nil => exact ⟨[], c :: cs, rfl, .nil, h⟩
    | cons d word =>
      obtain ⟨hd, hword⟩ := List.forall_mem_cons.mp plain
      rw [normal_cons] at h
      rcases compared_cases before c cs with ⟨e, he⟩ | hi
      · rw [he] at h
        obtain ⟨rfl, hmore⟩ := List.cons.inj h
        have hwhole := whole.imp (fun hnot hmem => hnot (List.mem_cons_of_mem e hmem)) id
        obtain ⟨part, rest, rfl, hpart, hrest⟩ := ih hword hwhole hmore
        refine ⟨c :: part, rest, rfl, .cons ((compared_eq_iff hd _ _).mp he) hpart, ?_⟩
        rw [List.reverse_cons, List.append_assoc]
        exact hrest
      · rw [hi] at h
        obtain ⟨rfl, hmore⟩ := List.cons.inj h
        -- Its accent would have to be the next letter of the word, or stand behind all of it.
        cases word with
        | nil =>
          have hnone : more = [] := whole.resolve_left fun hnot => hnot List.mem_cons_self
          rw [hnone] at hmore
          cases hmore
        | cons e word =>
          obtain ⟨rfl, -⟩ := List.cons.inj hmore
          exact absurd (hword _ List.mem_cons_self) (by decide)

theorem normal_append_of_alike (plain : ∀ d ∈ word, Plain d) (h : List.Forall₂ Alike part word)
    (before rest : List Char) :
    normal before (part ++ rest) = word ++ normal (part.reverse ++ before) rest := by
  induction h generalizing before with
  | nil => rfl
  | @cons c d part word hc _ ih =>
    obtain ⟨hd, hword⟩ := List.forall_mem_cons.mp plain
    rw [List.cons_append, normal_cons, (compared_eq_iff hd _ _).mpr hc, ih hword,
      List.reverse_cons, List.append_assoc]
    rfl

theorem normal_eq_iff (plain : ∀ d ∈ word, Plain d) :
    normal before s = word ↔ List.Forall₂ Alike s word := by
  constructor
  · intro h
    have hall : normal before s = word ++ [] := by rwa [List.append_nil]
    obtain ⟨part, rest, rfl, hpart, hrest⟩ := exists_of_normal_eq_append plain (.inr rfl) hall
    rw [normal_eq_nil_iff.mp hrest, List.append_nil]
    exact hpart
  · intro h
    have hnormal := normal_append_of_alike plain h before []
    rw [List.append_nil] at hnormal
    rw [hnormal]
    exact List.append_nil word

theorem exists_normal_append (before s rest : List Char) :
    ∃ front, normal before (s ++ rest) = front ++ normal (s.reverse ++ before) rest := by
  induction s generalizing before with
  | nil => exact ⟨[], rfl⟩
  | cons c cs ih =>
    obtain ⟨front, hfront⟩ := ih (c :: before)
    refine ⟨compared before c (cs ++ rest) ++ front, ?_⟩
    rw [List.cons_append, normal_cons, hfront, List.append_assoc, List.reverse_cons,
      List.append_assoc]
    rfl

theorem infix_normal_iff (plain : ∀ d ∈ word, Plain d) (hne : word ≠ []) (hi : 'i' ∉ word) :
    word <:+: normal before s ↔ ∃ part, part <:+: s ∧ List.Forall₂ Alike part word := by
  constructor
  · intro h
    -- The word begins with what the first character is compared as, or comes after that.
    induction s generalizing before with
    | nil => exact absurd (List.infix_nil.mp h) hne
    | cons c cs ih =>
      have hlater (h : word <:+: normal (c :: before) cs) :
          ∃ part, part <:+: c :: cs ∧ List.Forall₂ Alike part word := by
        obtain ⟨part, hpart, hword⟩ := ih h
        exact ⟨part, List.infix_cons hpart, hword⟩
      have hnormal := normal_cons before c cs
      rcases compared_cases before c cs with ⟨e, he⟩ | hpair
      · rw [hnormal, he] at h
        rcases List.infix_cons_iff.mp h with ⟨more, hmore⟩ | h
        · rw [he] at hnormal
          obtain ⟨part, rest, hsplit, hpart, -⟩ :=
            exists_of_normal_eq_append plain (.inl hi) (hnormal.trans hmore.symm)
          rw [hsplit]
          exact ⟨part, (List.prefix_append part rest).isInfix, hpart⟩
        · exact hlater h
      · -- Neither the `i` of the dotted capital letter nor its accent begins the word.
        obtain ⟨d, word, rfl⟩ := List.exists_cons_of_ne_nil hne
        rw [hnormal, hpair] at h
        rcases List.infix_cons_iff.mp h with ⟨more, hmore⟩ | h
        · obtain ⟨rfl, -⟩ := List.cons.inj hmore
          exact absurd List.mem_cons_self hi
        rcases List.infix_cons_iff.mp h with ⟨more, hmore⟩ | h
        · obtain ⟨rfl, -⟩ := List.cons.inj hmore
          exact absurd (plain _ List.mem_cons_self) (by decide)
        · exact hlater h
  · rintro ⟨part, ⟨left, right, rfl⟩, hpart⟩
    obtain ⟨front, hfront⟩ := exists_normal_append before left (part ++ right)
    rw [List.append_assoc, hfront, normal_append_of_alike plain hpart]
    exact ⟨front, _, List.append_assoc _ _ _⟩

/-! ## Hidden names -/

theorem plain_listed {listed : String} (h : listed ∈ sensitiveNames)
    (other : listed ≠ "set-cookie") : ∀ d ∈ listed.toList, Plain d := by
  have hall : ∀ listed ∈ sensitiveNames, listed ≠ "set-cookie" →
      (listed.toList.all fun d => Plain d) = true := by decide
  exact List.all_iff_forall_prop.mp (hall listed h other)

/-- There are no hyphens in what names are compared as. -/
theorem hyphen_notMem_underscored (s : List Char) : '-' ∉ underscored s := by
  intro h
  obtain ⟨c, -, hc⟩ := List.mem_map.mp h
  split at hc
  next => exact absurd hc (by decide)
  next hne => exact hne hc

theorem listed_iff {listed : String} (h : listed ∈ sensitiveNames) :
    listed = String.ofList (normal [] name.toList) ↔
      listed ≠ "set-cookie" ∧ SameName name listed := by
  by_cases hcookie : listed = "set-cookie"
  · subst hcookie
    refine iff_of_false (fun he => ?_) fun he => he.1 rfl
    have hspelled : normal [] name.toList = "set-cookie".toList := by
      rw [he, String.toList_ofList]
    have hnone : '-' ∉ normal [] name.toList := hyphen_notMem_underscored _
    rw [hspelled] at hnone
    exact hnone (by decide)
  · rw [and_iff_right hcookie, ← String.toList_inj, String.toList_ofList, eq_comm]
    exact normal_eq_iff (plain_listed h hcookie)

/-- Values are hidden under the listed names and the names with a word in them, in all their
spellings; but for one of the listed names. -/
theorem isSensitive_iff : isSensitive name = true ↔ Hidden name := by
  have hwords : ∀ word ∈ ["token", "password", "secret"],
      word.toList ≠ [] ∧ 'i' ∉ word.toList ∧ (word.toList.all fun d => Plain d) = true := by decide
  unfold isSensitive Hidden
  rw [Bool.or_eq_true]
  -- The listed names are compared as a whole, the words with any part.
  apply or_congr
  · rw [List.contains_iff_mem]
    constructor
    · intro h
      exact ⟨_, h, (listed_iff h).mp rfl⟩
    · rintro ⟨listed, hlisted, hsame⟩
      rw [(listed_iff hlisted).mpr hsame] at hlisted
      exact hlisted
  · unfold containsAny
    rw [List.any_eq_true]
    refine exists_congr fun word => and_congr_right fun hword => ?_
    obtain ⟨hne, hi, hplain⟩ := hwords word hword
    rw [Text.contains_iff_infix]
    exact infix_normal_iff (List.all_iff_forall_prop.mp hplain) hne hi

/-- The listed name with a hyphen is compared as one with an underscore, which is not listed. -/
theorem isSensitive_of_set_cookie (h : SameName name "set-cookie") : isSensitive name = false := by
  have hplain : ∀ d ∈ "set_cookie".toList, Plain d := List.all_iff_forall_prop.mp (by decide)
  have hmark (c d : Char) (h : Alike c d) : Alike c (if d = '-' then '_' else d) := by
    split
    next hd =>
      subst hd
      rcases h with h | h
      · have hlower : Text.lowerChar '-' = ['-'] := Text.lowerChar_eq_toLower (by decide)
        exact .inr ⟨.inl (Text.eq_of_lowerChar (h.trans hlower) (by decide)), .inr rfl⟩
      · exact .inr ⟨h.1, .inr rfl⟩
    next => exact h
  have hspelled : List.Forall₂ Alike name.toList (underscored "set-cookie".toList) :=
    List.forall₂_map_right_iff.mpr (h.imp hmark)
  have hnormal : underscored (Text.lower name.toList) = "set_cookie".toList :=
    (normal_eq_iff hplain).mpr hspelled
  unfold isSensitive
  rw [hnormal]
  decide

/-! ## Hidden values -/

theorem redact_put (name : String) (value : Json) (fields : Fields) :
    redact (Assoc.put name value fields) =
      Assoc.put name (if isSensitive name then .str redacted else value) (redact fields) := by
  induction fields with
  | nil => rfl
  | cons field fields ih =>
    obtain ⟨n, v⟩ := field
    unfold redact at ih ⊢
    rw [List.map_cons, Assoc.put, Assoc.put]
    split
    next => rw [List.map_cons]
    next => rw [List.map_cons, ih]

/-- The fields have the same names in the same order, and the same values but for hidden ones. -/
def AlikeButHidden (one other : Fields) : Prop :=
  List.Forall₂ (fun field other => field.1 = other.1 ∧ (field.2 = other.2 ∨ Hidden field.1)) one
    other

theorem redact_foldl_put {one other : Fields} (h : AlikeButHidden one other)
    {start otherStart : Fields} (starts : redact start = redact otherStart) :
    redact (one.foldl (fun acc field => Assoc.put field.1 field.2 acc) start) =
      redact (other.foldl (fun acc field => Assoc.put field.1 field.2 acc) otherStart) := by
  induction h generalizing start otherStart with
  | nil => exact starts
  | cons hfield _ ih =>
    rw [List.foldl_cons, List.foldl_cons]
    apply ih
    rw [redact_put, redact_put, starts, hfield.1]
    rcases hfield.2 with hvalue | hhidden
    · rw [hvalue]
    · rw [← hfield.1, if_pos (isSensitive_iff.mpr hhidden), if_pos (isSensitive_iff.mpr hhidden)]

end TokenIssuer.Log
