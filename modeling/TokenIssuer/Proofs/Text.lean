import TokenIssuer.Text.Cut

/-! Trimming and cutting: what is left of a text, and when nothing is taken from it. -/

namespace TokenIssuer.Text

variable {p : Char → Bool} {sep : Char}

/-- The text has no character but blanks. -/
def Blank (s : List Char) : Prop := ∀ c ∈ s, isBlank c = true

theorem blank_of_allBlank {s : List Char} (h : allBlank s = true) : Blank s :=
  List.all_eq_true.mp h

theorem mem_of_mem_dropAround {c : Char} {s : List Char} (h : c ∈ dropAround p s) : c ∈ s := by
  unfold dropAround dropEndWhile at h
  rw [List.mem_reverse] at h
  have hd := (List.dropWhile_sublist p).mem h
  rw [List.mem_reverse] at hd
  exact (List.dropWhile_sublist p).mem hd

theorem mem_of_mem_trim {c : Char} {s : List Char} (h : c ∈ trim s) : c ∈ s :=
  mem_of_mem_dropAround h

/-- Between two margins of characters that are dropped, a text stays that neither begins nor ends
with such a character. -/
theorem dropAround_between (left right : List Char) {s : List Char} (hl : ∀ c ∈ left, p c = true)
    (hr : ∀ c ∈ right, p c = true) (hs : s ≠ [])
    (hfirst : p (s.head hs) = false) (hlast : p (s.getLast hs) = false) :
    dropAround p (left ++ s ++ right) = s := by
  have hfront : (left ++ s ++ right).dropWhile p = s ++ right := by
    rw [List.append_assoc, List.dropWhile_append_of_pos hl]
    obtain ⟨c, cs, rfl⟩ := List.exists_cons_of_ne_nil hs
    rw [List.cons_append, List.dropWhile_cons_of_neg]
    rw [List.head_cons] at hfirst
    rw [hfirst]; exact Bool.false_ne_true
  -- The end is dropped as the front of the reversed text.
  have hback : (right.reverse ++ s.reverse).dropWhile p = s.reverse := by
    rw [List.dropWhile_append_of_pos (fun c hc => hr c (List.mem_reverse.mp hc))]
    have hrev : s.reverse = s.getLast hs :: s.dropLast.reverse := by
      calc
        s.reverse = (s.dropLast ++ [s.getLast hs]).reverse := by rw [List.dropLast_concat_getLast]
        _ = s.getLast hs :: s.dropLast.reverse := by
          rw [List.reverse_append, List.reverse_singleton, List.singleton_append]
    rw [hrev, List.dropWhile_cons_of_neg]
    rw [hlast]; exact Bool.false_ne_true
  unfold dropAround dropEndWhile
  rw [hfront, List.reverse_append, hback, List.reverse_reverse]

/-- What is dropped from a text stands at its ends. -/
theorem exists_dropAround (p : Char → Bool) (s : List Char) :
    ∃ left right, (∀ c ∈ left, p c = true) ∧ (∀ c ∈ right, p c = true) ∧
      s = left ++ dropAround p s ++ right := by
  refine ⟨s.takeWhile p, ((s.dropWhile p).reverse.takeWhile p).reverse,
    List.all_eq_true.mp List.all_takeWhile,
    fun c hc => List.all_eq_true.mp List.all_takeWhile c (List.mem_reverse.mp hc), ?_⟩
  unfold dropAround dropEndWhile
  rw [List.append_assoc, ← List.reverse_append, List.takeWhile_append_dropWhile,
    List.reverse_reverse, List.takeWhile_append_dropWhile]

/-- Nothing is left exactly of a text that is dropped as a whole. -/
theorem dropAround_eq_nil_iff {s : List Char} :
    dropAround p s = [] ↔ ∀ c ∈ s, p c = true := by
  constructor
  · intro h
    obtain ⟨left, right, hl, hr, hs⟩ := exists_dropAround p s
    rw [h, List.append_nil] at hs
    intro c hc
    rw [hs, List.mem_append] at hc
    exact hc.elim (hl c) (hr c)
  · intro h
    have hfront : s.dropWhile p = [] := by
      have hd : (s ++ []).dropWhile p = [] := List.dropWhile_append_of_pos h
      rwa [List.append_nil] at hd
    unfold dropAround
    rw [hfront]
    rfl

theorem head_dropAround {s : List Char} (h : dropAround p s ≠ []) :
    p ((dropAround p s).head h) = false := by
  have hstarts : dropAround p s <+: s.dropWhile p := by
    rw [← List.reverse_suffix]
    unfold dropAround dropEndWhile
    rw [List.reverse_reverse]
    exact List.dropWhile_suffix p
  rw [hstarts.head h]
  exact List.head_dropWhile_not p _

theorem getLast_dropAround {s : List Char} (h : dropAround p s ≠ []) :
    p ((dropAround p s).getLast h) = false := by
  unfold dropAround dropEndWhile at h ⊢
  rw [List.getLast_reverse]
  exact List.head_dropWhile_not p _

theorem dropAround_eq_self_iff {s : List Char} (hs : s ≠ []) :
    dropAround p s = s ↔ p (s.head hs) = false ∧ p (s.getLast hs) = false := by
  constructor
  · intro h
    have hne : dropAround p s ≠ [] := by rwa [h]
    have hfirst := head_dropAround hne
    have hlast := getLast_dropAround hne
    simp only [h] at hfirst hlast
    exact ⟨hfirst, hlast⟩
  · rintro ⟨hfirst, hlast⟩
    have hd := dropAround_between [] [] (List.forall_mem_nil _) (List.forall_mem_nil _) hs hfirst
      hlast
    rwa [List.nil_append, List.append_nil] at hd

theorem dropAround_eq_self {s : List Char} (h : ∀ c ∈ s, p c = false) : dropAround p s = s := by
  by_cases hs : s = []
  · rw [hs]
    rfl
  · exact (dropAround_eq_self_iff hs).mpr ⟨h _ (List.head_mem hs), h _ (List.getLast_mem hs)⟩

/-- Margins of characters that are dropped make no difference. -/
theorem dropAround_margins {left right : List Char} (hl : ∀ c ∈ left, p c = true)
    (hr : ∀ c ∈ right, p c = true) (s : List Char) :
    dropAround p (left ++ s ++ right) = dropAround p s := by
  obtain ⟨before, after, hbefore, hafter, hs⟩ := exists_dropAround p s
  by_cases hne : dropAround p s = []
  · rw [hne, dropAround_eq_nil_iff]
    exact List.forall_mem_append.mpr
      ⟨List.forall_mem_append.mpr ⟨hl, dropAround_eq_nil_iff.mp hne⟩, hr⟩
  · have hbetween := dropAround_between (left ++ before) (after ++ right)
      (List.forall_mem_append.mpr ⟨hl, hbefore⟩) (List.forall_mem_append.mpr ⟨hafter, hr⟩) hne
      (head_dropAround hne) (getLast_dropAround hne)
    have hwhole := congrArg (fun t => left ++ t ++ right) hs
    simp only [List.append_assoc] at hwhole hbetween ⊢
    rw [hwhole, hbetween]

/-- A text is cut at its first separator. -/
theorem cut_eq_some_iff {s before after : List Char} :
    cut sep s = (before, some after) ↔ s = before ++ sep :: after ∧ sep ∉ before := by
  -- What stands before the cut is left open: it loses its first letter together with the text.
  induction s generalizing before with
  | nil => simp [cut]
  | cons c cs ih =>
    rw [cut]
    by_cases h : c = sep
    · subst h
      rw [if_pos rfl]
      cases before with
      | nil => simp [eq_comm]
      | cons b bs =>
        simp only [Prod.mk.injEq, List.nil_eq, reduceCtorEq, false_and, List.cons_append,
          List.cons.injEq, List.mem_cons, not_or, false_iff, not_and]
        exact fun hc hb => absurd hc.1 hb
    · rw [if_neg h]
      cases before with
      | nil =>
        simp only [Prod.mk.injEq, reduceCtorEq, false_and, List.nil_append, List.cons.injEq, h]
      | cons b bs =>
        have hih := @ih bs
        rw [Prod.ext_iff] at hih
        simp only [Prod.mk.injEq, List.cons.injEq, List.cons_append, List.mem_cons, not_or]
        constructor
        · rintro ⟨⟨rfl, hb⟩, ha⟩
          obtain ⟨hs, hn⟩ := hih.mp ⟨hb, ha⟩
          exact ⟨⟨rfl, hs⟩, Ne.symm h, hn⟩
        · rintro ⟨⟨rfl, hs⟩, _, hn⟩
          obtain ⟨hb, ha⟩ := hih.mpr ⟨hs, hn⟩
          exact ⟨⟨rfl, hb⟩, ha⟩

/-- A text is not cut where it has no separator. -/
theorem cut_of_notMem {s : List Char} (h : sep ∉ s) : cut sep s = (s, none) := by
  induction s with
  | nil => rfl
  | cons c cs ih =>
    rw [List.mem_cons, not_or] at h
    rw [cut, if_neg (Ne.symm h.1), ih h.2]

theorem cut_eq_none_iff {s before : List Char} :
    cut sep s = (before, none) ↔ before = s ∧ sep ∉ s := by
  constructor
  · intro h
    have hs : sep ∉ s := by
      intro hm
      obtain ⟨front, back, rfl, hfront⟩ := List.eq_append_cons_of_mem hm
      rw [cut_eq_some_iff.mpr ⟨rfl, hfront⟩] at h
      cases h
    rw [cut_of_notMem hs] at h
    cases h
    exact ⟨rfl, hs⟩
  · rintro ⟨rfl, hs⟩
    exact cut_of_notMem hs

theorem before_append_of_notMem {word : List Char} (h : sep ∉ word) (s : List Char) :
    before sep (word ++ s) = word ++ before sep s := by
  induction word with
  | nil => rfl
  | cons c cs ih =>
    rw [List.mem_cons, not_or] at h
    unfold before at ih ⊢
    rw [List.cons_append, cut, if_neg (Ne.symm h.1), List.cons_append, ← ih h.2]

theorem before_of_notMem {word : List Char} (h : sep ∉ word) : before sep word = word := by
  unfold before
  rw [cut_of_notMem h]

theorem before_append_cons {word : List Char} (h : sep ∉ word) (s : List Char) :
    before sep (word ++ sep :: s) = word := by
  unfold before
  rw [cut_eq_some_iff.mpr ⟨rfl, h⟩]

theorem trim_trim (s : List Char) : trim (trim s) = trim s := by
  by_cases hs : trim s = []
  · rw [hs]
    rfl
  · exact (dropAround_eq_self_iff hs).mpr ⟨head_dropAround hs, getLast_dropAround hs⟩

/-- A text may be trimmed before it is cut at a character that is no blank. -/
theorem trim_before_trim (h : isBlank sep = false) (s : List Char) :
    trim (before sep (trim s)) = trim (before sep s) := by
  obtain ⟨left, right, hl, hr, hs⟩ := exists_dropAround isBlank s
  have hmargin {margin : List Char} (hm : ∀ c ∈ margin, isBlank c = true) : sep ∉ margin := by
    intro hsep
    rw [hm sep hsep] at h
    cases h
  have hleft : before sep s = left ++ before sep (trim s ++ right) := by
    rw [← before_append_of_notMem (hmargin hl), ← List.append_assoc]
    exact congrArg (before sep) hs
  rw [hleft]
  by_cases hsep : sep ∈ trim s
  · obtain ⟨word, rest, htrim, hword⟩ := List.eq_append_cons_of_mem hsep
    have hdropped := dropAround_margins hl (List.forall_mem_nil _) word
    rw [List.append_nil] at hdropped
    rw [htrim, List.append_assoc, List.cons_append, before_append_cons hword,
      before_append_cons hword]
    exact hdropped.symm
  -- Without a separator nothing but the margins is lost.
  · rw [before_of_notMem hsep, before_append_of_notMem hsep, before_of_notMem (hmargin hr),
      ← List.append_assoc]
    exact (dropAround_margins hl hr (trim s)).symm

theorem mem_intercalate {c : Char} {glue : List Char} {pieces : List (List Char)}
    (h : c ∈ glue.intercalate pieces) : c ∈ glue ∨ ∃ piece ∈ pieces, c ∈ piece := by
  induction pieces with
  | nil => exact absurd h List.not_mem_nil
  | cons piece pieces ih =>
    by_cases hlast : pieces = []
    · subst hlast
      rw [List.intercalate_singleton] at h
      exact .inr ⟨piece, List.mem_cons_self, h⟩
    · rw [List.intercalate_cons_of_ne_nil hlast, List.mem_append, List.mem_append] at h
      rcases h with (h | h) | h
      · exact .inr ⟨piece, List.mem_cons_self, h⟩
      · exact .inl h
      · exact (ih h).imp_right fun ⟨other, ho, hc⟩ => ⟨other, List.mem_cons_of_mem _ ho, hc⟩

theorem intercalate_nil_eq_flatten (pieces : List (List Char)) :
    List.intercalate [] pieces = pieces.flatten := by
  induction pieces with
  | nil => rfl
  | cons piece pieces ih =>
    by_cases hlast : pieces = []
    · subst hlast
      rw [List.intercalate_singleton, List.flatten_singleton]
    · rw [List.intercalate_cons_of_ne_nil hlast, ih, List.append_nil, List.flatten_cons]

theorem join_eq_intercalate (sep : List Char) (pieces : List (List Char)) :
    join sep pieces = sep.intercalate pieces := by
  match pieces with
  | [] => rfl
  | [piece] => exact (List.intercalate_singleton).symm
  | piece :: next :: rest =>
    show piece ++ sep ++ join sep (next :: rest) = _
    rw [join_eq_intercalate sep (next :: rest),
      List.intercalate_cons_of_ne_nil (List.cons_ne_nil next rest)]

theorem mem_join {c : Char} {sep : List Char} {pieces : List (List Char)}
    (h : c ∈ join sep pieces) : c ∈ sep ∨ ∃ piece ∈ pieces, c ∈ piece :=
  mem_intercalate (join_eq_intercalate sep pieces ▸ h)

theorem join_append {sep : List Char} {front back : List (List Char)} (hfront : front ≠ [])
    (hback : back ≠ []) : join sep (front ++ back) = join sep front ++ (sep ++ join sep back) := by
  simp only [join_eq_intercalate]
  induction front with
  | nil => exact absurd rfl hfront
  | cons piece front ih =>
    by_cases hlast : front = []
    · subst hlast
      rw [List.singleton_append, List.intercalate_cons_of_ne_nil hback, List.intercalate_singleton,
        List.append_assoc]
    · have hne : front ++ back ≠ [] := List.append_ne_nil_of_right_ne_nil _ hback
      rw [List.cons_append, List.intercalate_cons_of_ne_nil hne,
        List.intercalate_cons_of_ne_nil hlast, ih hlast]
      simp only [List.append_assoc]

/-- A piece stands whole in the joined text, and the rest of that is the same for every piece in its
place. -/
theorem exists_join_eq (sep : List Char) (front back : List (List Char)) :
    ∃ left right, ∀ piece, join sep (front ++ piece :: back) = left ++ piece ++ right := by
  induction front with
  | nil =>
    cases back with
    | nil => exact ⟨[], [], fun piece => (List.append_nil piece).symm⟩
    | cons next rest =>
      exact ⟨[], sep ++ join sep (next :: rest), fun piece => List.append_assoc _ _ _⟩
  | cons first front ih =>
    obtain ⟨left, right, hjoin⟩ := ih
    refine ⟨first ++ sep ++ left, right, fun piece => ?_⟩
    have hne : front ++ piece :: back ≠ [] :=
      List.append_ne_nil_of_right_ne_nil _ (List.cons_ne_nil _ _)
    rw [List.cons_append, join_eq_intercalate, List.intercalate_cons_of_ne_nil hne,
      ← join_eq_intercalate, hjoin]
    simp only [List.append_assoc]

/-- What stands on the two sides of a separator is split on its own. -/
theorem splitOn_append_cons (sep : Char) (s rest : List Char) :
    splitOn sep (s ++ sep :: rest) = splitOn sep s ++ splitOn sep rest := by
  induction s with
  | nil => exact if_pos rfl
  | cons c cs ih =>
    rw [List.cons_append, splitOn, splitOn, ih]
    by_cases h : c = sep
    · rw [if_pos h, if_pos h, List.cons_append]
    · rw [if_neg h, if_neg h]
      obtain ⟨first, pieces, hcs⟩ := List.exists_cons_of_ne_nil (splitOn_ne_nil sep cs)
      rw [hcs]
      rfl

theorem splitOn_of_notMem {piece : List Char} (h : sep ∉ piece) : splitOn sep piece = [piece] := by
  induction piece with
  | nil => rfl
  | cons c cs ih =>
    rw [List.mem_cons, not_or] at h
    rw [splitOn, if_neg (Ne.symm h.1), ih h.2]

/-- A piece ends where the separator stands. -/
theorem splitOn_append_sep {piece : List Char} (h : sep ∉ piece) (rest : List Char) :
    splitOn sep (piece ++ sep :: rest) = piece :: splitOn sep rest := by
  rw [splitOn_append_cons, splitOn_of_notMem h, List.singleton_append]

/-- Pieces with the separator between them are told apart again. -/
theorem splitOn_join {pieces : List (List Char)} (hne : pieces ≠ [])
    (h : ∀ piece ∈ pieces, sep ∉ piece) : splitOn sep (join [sep] pieces) = pieces := by
  match pieces with
  | [] => exact absurd rfl hne
  | [piece] => exact splitOn_of_notMem (h piece List.mem_cons_self)
  | piece :: next :: rest =>
    have hrest : ∀ other ∈ next :: rest, sep ∉ other :=
      fun other ho => h other (List.mem_cons_of_mem piece ho)
    show splitOn sep (piece ++ [sep] ++ join [sep] (next :: rest)) = _
    rw [List.append_assoc, List.singleton_append, splitOn_append_sep (h piece List.mem_cons_self),
      splitOn_join (List.cons_ne_nil next rest) hrest]

theorem notMem_of_mem_splitOn {s piece : List Char} (h : piece ∈ splitOn sep s) : sep ∉ piece := by
  induction s generalizing piece with
  | nil =>
    rw [List.mem_singleton.mp h]
    exact List.not_mem_nil
  | cons c cs ih =>
    rw [splitOn] at h
    by_cases hc : c = sep
    · rw [if_pos hc] at h
      rcases List.mem_cons.mp h with rfl | h
      · exact List.not_mem_nil
      · exact ih h
    · rw [if_neg hc] at h
      -- Any other character goes to the front of the first piece.
      obtain ⟨first, rest, hs⟩ := List.exists_cons_of_ne_nil (splitOn_ne_nil sep cs)
      rw [hs] at h ih
      rcases List.mem_cons.mp h with rfl | h
      · rw [List.mem_cons, not_or]
        exact ⟨Ne.symm hc, ih List.mem_cons_self⟩
      · exact ih (List.mem_cons_of_mem first h)

/-- Pieces that each end with the separator are told apart again; behind the last one nothing is
left. -/
theorem splitOn_flatMap {pieces : List (List Char)} (h : ∀ piece ∈ pieces, sep ∉ piece) :
    splitOn sep (pieces.flatMap (· ++ [sep])) = pieces ++ [[]] := by
  induction pieces with
  | nil => rfl
  | cons piece pieces ih =>
    obtain ⟨hpiece, hpieces⟩ := List.forall_mem_cons.mp h
    rw [List.flatMap_cons, List.append_assoc, List.singleton_append, splitOn_append_sep hpiece,
      ih hpieces, List.cons_append]

/-- The text does not begin in any place with the part. -/
def Avoids (part s : List Char) : Prop := ∀ t, t <:+ s → t ≠ [] → part.isPrefixOf t = false

theorem go_eq_self {old new s : List Char} (fuel : Nat) (h : Avoids old s) :
    replace.go old new fuel s = s := by
  -- Where no part begins the text is copied, and when the fuel runs out it is copied as well.
  induction s generalizing fuel with
  | nil => cases fuel <;> rfl
  | cons c cs ih =>
    cases fuel with
    | zero => rfl
    | succ fuel =>
      have hc := h (c :: cs) (List.suffix_refl _) (List.cons_ne_nil c cs)
      rw [replace.go, hc, Bool.and_false, if_neg Bool.false_ne_true,
        ih fuel fun t ht => h t (ht.trans (List.suffix_cons c cs))]

theorem avoids_of_not_mem {c : Char} {part s : List Char} (ho : c ∈ part) (hs : c ∉ s) :
    Avoids part s := by
  intro t ht _
  rw [Bool.eq_false_iff]
  intro hp
  exact hs (ht.subset ((List.isPrefixOf_iff_prefix.mp hp).subset ho))

theorem replace_eq_self {old s : List Char} (new : List Char) (h : Avoids old s) :
    replace old new s = s :=
  go_eq_self s.length h

/-- A part at the start is replaced, and nothing else when there is no other. -/
theorem replace_prefix {old s : List Char} (new : List Char) (hne : old ≠ [])
    (h : Avoids old s) : replace old new (old ++ s) = new ++ s := by
  obtain ⟨c, cs, rfl⟩ := List.exists_cons_of_ne_nil hne
  have hprefix : (c :: cs).isPrefixOf (c :: (cs ++ s)) = true :=
    List.isPrefixOf_iff_prefix.mpr (List.prefix_append (c :: cs) s)
  have hdrop : (c :: (cs ++ s)).drop (c :: cs).length = s := by
    rw [← List.cons_append]
    exact List.drop_left
  unfold replace
  rw [List.cons_append, List.length_cons, replace.go, hprefix, hdrop, go_eq_self _ h]
  rfl

/-- A part of one character is replaced character by character. -/
theorem replace_singleton (c : Char) (new s : List Char) :
    replace [c] new s = s.flatMap fun d => if d = c then new else [d] := by
  induction s with
  | nil => rfl
  | cons d ds ih =>
    unfold replace at ih ⊢
    rw [List.length_cons, replace.go, List.flatMap_cons]
    by_cases h : d = c
    · rw [if_pos h, h]
      simp [ih]
    · have hno : [c].isPrefixOf (d :: ds) = false := by
        simp [List.isPrefixOf, Ne.symm h]
      rw [if_neg h, hno, Bool.and_false, if_neg Bool.false_ne_true, ih]
      rfl

/-- What stands after a cut was there before it. -/
theorem mem_of_mem_cut {c : Char} {s : List Char} (h : c ∈ (cut sep s).2.getD []) : c ∈ s := by
  cases ha : (cut sep s).2 with
  | none => rw [ha] at h; simp at h
  | some after =>
    rw [ha, Option.getD_some] at h
    have hc : cut sep s = ((cut sep s).1, some after) := by rw [← ha]
    rw [(cut_eq_some_iff.mp hc).1]
    exact List.mem_append_right _ (List.mem_cons_of_mem _ h)

theorem contains_iff_infix {part s : List Char} : contains part s = true ↔ part <:+: s := by
  induction s with
  | nil => rw [contains, List.isEmpty_iff, List.infix_nil]
  | cons c cs ih =>
    rw [contains, Bool.or_eq_true, List.isPrefixOf_iff_prefix, ih, List.infix_cons_iff]

end TokenIssuer.Text
