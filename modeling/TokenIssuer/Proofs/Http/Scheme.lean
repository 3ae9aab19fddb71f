import Mathlib.Data.List.TakeWhile
import TokenIssuer.Proofs.Demo
import TokenIssuer.Proofs.Http.Resemblance
import TokenIssuer.Proofs.Text.Case

/-!
The scheme of an Authorization header, which is logged. It ends at the first space only, so that a
tab in its place, and what follows the tab, count as part of the scheme.
-/

namespace TokenIssuer.Text

variable {s word gap : List Char} {sep : Char}

/-- A text with a character in it and without blanks. -/
def Solid (s : List Char) : Prop := s ≠ [] ∧ ∀ c ∈ s, isBlank c = false

/-- One or more spaces and tabs. -/
def Gap (s : List Char) : Prop := s ≠ [] ∧ ∀ c ∈ s, c = ' ' ∨ c = '\t'

theorem Gap.blank (h : Gap gap) : Blank gap := by
  intro c hc
  rcases h.2 c hc with rfl | rfl <;> rfl

theorem Gap.head_cases (h : Gap gap) :
    (∃ rest, gap = ' ' :: rest) ∨ ∃ rest, gap = '\t' :: rest := by
  obtain ⟨c, rest, rfl⟩ := List.exists_cons_of_ne_nil h.1
  rcases h.2 c List.mem_cons_self with rfl | rfl
  · exact .inl ⟨rest, rfl⟩
  · exact .inr ⟨rest, rfl⟩

theorem Solid.notMem (h : Solid word) {c : Char} (blank : isBlank c = true) : c ∉ word := by
  intro hc
  rw [h.2 c hc] at blank
  exact Bool.false_ne_true blank

/-- Only blanks at the very end are dropped from it. -/
theorem dropEndWhile_append_of_not_blank (h : ¬ Blank s) (front : List Char) :
    dropEndWhile isBlank (front ++ s) = front ++ dropEndWhile isBlank s := by
  have hne : (s.reverse.dropWhile isBlank).isEmpty = false := by
    rw [Bool.eq_false_iff, ne_eq, List.isEmpty_iff, List.dropWhile_eq_nil_iff]
    exact fun hall => h fun c hc => hall c (List.mem_reverse.mpr hc)
  unfold dropEndWhile
  rw [List.reverse_append, List.dropWhile_append, hne, if_neg Bool.false_ne_true,
    List.reverse_append, List.reverse_reverse]

/-- Blanks behind a word are taken off it. -/
theorem trim_append_of_blank (hword : Solid word) (h : Blank s) : trim (word ++ s) = word := by
  have hd := dropAround_between [] s (List.forall_mem_nil _) h hword.1
    (hword.2 _ (List.head_mem _)) (hword.2 _ (List.getLast_mem _))
  rwa [List.nil_append] at hd

/-- What follows a word keeps the blanks in front of it. -/
theorem trim_append_of_not_blank (hword : Solid word) (h : ¬ Blank s) (gap : List Char) :
    trim (word ++ gap ++ s) = word ++ (gap ++ dropEndWhile isBlank s) := by
  have hfront : (word ++ gap ++ s).dropWhile isBlank = word ++ gap ++ s := by
    obtain ⟨c, cs, rfl⟩ := List.exists_cons_of_ne_nil hword.1
    have hc : ¬ isBlank c = true := by simp [hword.2 c List.mem_cons_self]
    rw [List.cons_append, List.cons_append, List.dropWhile_cons_of_neg hc]
  unfold trim dropAround
  rw [hfront, dropEndWhile_append_of_not_blank h, List.append_assoc]

/-! ## Lower case -/

theorem length_lowerAfter (front s : List Char) :
    (lowerAfter front s).length = (s.flatMap lowerChar).length := by
  have hsigma : lowerChar '\u03A3' = ['\u03C3'] := by decide +kernel
  induction s generalizing front with
  | nil => rfl
  | cons c cs ih =>
    rw [lowerAfter, List.flatMap_cons, List.length_append, List.length_append, ih]
    split
    next hc =>
      rw [hc, hsigma]
      rfl
    next => rfl

theorem length_lower_pos (h : s ≠ []) : 0 < (lower s).length := by
  obtain ⟨c, cs, rfl⟩ := List.exists_cons_of_ne_nil h
  unfold lower
  rw [length_lowerAfter, List.flatMap_cons, List.length_append]
  rcases lowerChar_cases c with ⟨d, hd⟩ | hi
  · rw [hd, List.length_singleton]
    omega
  · rw [hi]
    exact Nat.lt_of_lt_of_le (by decide) (Nat.le_add_right _ _)

/-- A text that goes on is longer in lower case as well. -/
theorem lower_append_ne (word : List Char) (h : s ≠ []) : lower (word ++ s) ≠ lower word := by
  intro he
  have hlength := congrArg List.length he
  have hpos := length_lower_pos h
  unfold lower at hlength hpos
  rw [length_lowerAfter, length_lowerAfter, List.flatMap_append, List.length_append] at hlength
  rw [length_lowerAfter] at hpos
  omega

end TokenIssuer.Text

namespace TokenIssuer.Http

variable {request one other : Request} {word gap credentials others : String}

/-! ## The scheme -/

theorem value_of_header
    (h : request.header? "authorization" = some (word ++ gap ++ credentials)) :
    request.trimmedHeader "authorization" =
      Text.trim (word.toList ++ gap.toList ++ credentials.toList) := by
  unfold Request.trimmedHeader
  rw [h, Option.getD_some, String.toList_append, String.toList_append]

theorem authorizationScheme_of_trimmed {s : List Char}
    (h : request.trimmedHeader "authorization" = s) (hs : s ≠ []) :
    request.authorizationScheme = some (String.ofList (Text.lower (Text.before ' ' s))) := by
  have hne : ¬ s.isEmpty = true := fun he => hs (List.isEmpty_iff.mp he)
  unfold Request.authorizationScheme
  rw [h]
  exact if_neg hne

/-- A word is the scheme if nothing follows it, or a space. -/
theorem authorizationScheme_of_word {s : List Char} (hword : Text.Solid word.toList)
    (h : request.trimmedHeader "authorization" = s)
    (hs : s = word.toList ∨ ∃ rest, s = word.toList ++ ' ' :: rest) :
    request.authorizationScheme = some (Text.lowered word) := by
  have hspace : ' ' ∉ word.toList := hword.notMem rfl
  have hbefore : Text.before ' ' s = word.toList := by
    rcases hs with rfl | ⟨rest, rfl⟩
    · exact Text.before_of_notMem hspace
    · rw [Text.before_append_of_notMem hspace]
      exact List.append_nil word.toList
  have hne : s ≠ [] := by
    rcases hs with rfl | ⟨rest, rfl⟩
    · exact hword.1
    · exact List.append_ne_nil_of_left_ne_nil hword.1 _
  rw [authorizationScheme_of_trimmed h hne, hbefore]
  rfl

/-- A tab behind the word is part of the scheme, and so is what follows the tab. -/
theorem authorizationScheme_of_tab {rest : List Char} (hword : Text.Solid word.toList)
    (h : request.trimmedHeader "authorization" = word.toList ++ '\t' :: rest) :
    request.authorizationScheme =
      some (String.ofList (Text.lower (word.toList ++ '\t' :: Text.before ' ' rest))) := by
  have hspace : ' ' ∉ word.toList := hword.notMem rfl
  have htab : ' ' ∉ ['\t'] := by decide
  rw [authorizationScheme_of_trimmed h (List.append_ne_nil_of_left_ne_nil hword.1 _),
    Text.before_append_of_notMem hspace, ← List.singleton_append,
    Text.before_append_of_notMem htab]
  rfl

/-- The word alone is taken for the scheme exactly when a space follows it, or nothing at all. -/
theorem authorizationScheme_eq_iff (hword : Text.Solid word.toList) (hgap : Text.Gap gap.toList)
    (h : request.header? "authorization" = some (word ++ gap ++ credentials)) :
    request.authorizationScheme = some (Text.lowered word) ↔
      gap.toList.head? = some ' ' ∨ Text.Blank credentials.toList := by
  have hvalue := value_of_header h
  by_cases hblank : Text.Blank credentials.toList
  · have hend : Text.Blank (gap.toList ++ credentials.toList) :=
      List.forall_mem_append.mpr ⟨hgap.blank, hblank⟩
    rw [List.append_assoc, Text.trim_append_of_blank hword hend] at hvalue
    exact iff_of_true (authorizationScheme_of_word hword hvalue (.inl rfl)) (.inr hblank)
  · rw [Text.trim_append_of_not_blank hword hblank] at hvalue
    rcases hgap.head_cases with ⟨rest, hspace⟩ | ⟨rest, htab⟩
    · rw [hspace, List.cons_append] at hvalue
      rw [hspace]
      exact iff_of_true (authorizationScheme_of_word hword hvalue (.inr ⟨_, rfl⟩)) (.inl rfl)
    · rw [htab, List.cons_append] at hvalue
      rw [authorizationScheme_of_tab hword hvalue, htab]
      refine iff_of_false (fun he => ?_) fun h => ?_
      · have hlower := String.ofList_inj.mp (Option.some.inj he)
        exact Text.lower_append_ne _ (List.cons_ne_nil _ _) hlower
      · rcases h with h | h
        · cases h
        · exact hblank h

/-! ## What is logged -/

theorem Request.AgreeBut.mono {names more : List String} (h : Request.AgreeBut names one other)
    (hmore : names ⊆ more) : Request.AgreeBut more one other :=
  { h with header := fun name hn => h.header name fun hname => hn (hmore hname) }

/-- Of an Authorization header nothing but the scheme is logged. -/
theorem requestFields_eq_iff (rest : Request.AgreeBut ["authorization"] one other) :
    Layer.requestFields one = Layer.requestFields other ↔
      one.authorizationScheme = other.authorizationScheme := by
  have hinjective (a b : Option String) (h : Json.ofText? a = Json.ofText? b) : a = b := by
    cases a <;> cases b <;> cases h <;> rfl
  constructor
  · intro h
    have hlogged : some (Json.ofText? one.authorizationScheme) =
        some (Json.ofText? other.authorizationScheme) :=
      congrArg (List.lookup "authorization_scheme") h
    exact hinjective _ _ (Option.some.inj hlogged)
  · intro h
    have hrest := rest.mono (List.subset_append_left ["authorization"] ["content-length"])
    exact Resembles.requestFields ⟨hrest, h⟩

/-- Of two requests with different credentials behind the same word and gap the same is logged, with
the word as their scheme, exactly when the gap begins with a space or there are no credentials in
either. -/
theorem credentials_are_not_logged_iff (rest : Request.AgreeBut ["authorization"] one other)
    (hword : Text.Solid word.toList) (hgap : Text.Gap gap.toList)
    (bears : one.header? "authorization" = some (word ++ gap ++ credentials))
    (alsoBears : other.header? "authorization" = some (word ++ gap ++ others)) :
    (Layer.requestFields one = Layer.requestFields other ∧
        one.authorizationScheme = some (Text.lowered word)) ↔
      gap.toList.head? = some ' ' ∨
        Text.Blank credentials.toList ∧ Text.Blank others.toList := by
  have hone := authorizationScheme_eq_iff hword hgap bears
  have hother := authorizationScheme_eq_iff hword hgap alsoBears
  rw [requestFields_eq_iff rest, or_and_left, ← hone, ← hother]
  constructor
  · rintro ⟨hsame, hscheme⟩
    exact ⟨hscheme, hsame ▸ hscheme⟩
  · rintro ⟨hscheme, halso⟩
    exact ⟨hscheme.trans halso.symm, hscheme⟩

/-- Requests with one header line that differs in its value. -/
theorem agreeBut_of_line (request : Request) (front back : Headers) (name value other : String) :
    Request.AgreeBut [Text.lowered name]
      { request with headers := front ++ (name, value) :: back }
      { request with headers := front ++ (name, other) :: back } := by
  refine ⟨rfl, rfl, rfl, rfl, fun sought hn => ?_⟩
  have hne : ¬ Text.lowered name = sought := fun he => hn (List.mem_singleton.mpr he.symm)
  unfold Request.header? Headers.first?
  simp only [List.find?_append, List.find?_cons, hne, decide_false]

theorem agreeBut_demo (one other path body : String) :
    Request.AgreeBut ["authorization"] (Demo.request one path body)
      (Demo.request other path body) := by
  have hname : Text.lowered "authorization" = "authorization" := by decide
  have hline := agreeBut_of_line (Demo.request one path body) []
    [("content-type", Form.expectedType)] "authorization" one other
  rw [hname] at hline
  exact hline

/-- A tab after the space does no harm. -/
theorem credentials_are_not_logged_demo :
    Layer.requestFields (Demo.request "Basic \tYTpi" "/token" "") =
        Layer.requestFields (Demo.request "Basic \tYzpk" "/token" "") ∧
      (Demo.request "Basic \tYTpi" "/token" "").authorizationScheme = some "basic" := by
  have hlower : Text.lowered "Basic" = "basic" := by decide
  have hone : (Demo.request "Basic \tYTpi" "/token" "").header? "authorization" =
      some ("Basic" ++ " \t" ++ "YTpi") := Demo.header_request _ _ _
  have hother : (Demo.request "Basic \tYzpk" "/token" "").header? "authorization" =
      some ("Basic" ++ " \t" ++ "Yzpk") := Demo.header_request _ _ _
  rw [← hlower]
  exact (credentials_are_not_logged_iff (agreeBut_demo _ _ _ _)
    ⟨by decide, List.all_iff_forall_prop.mp (by decide)⟩
    ⟨by decide, List.all_iff_forall_prop.mp (by decide)⟩ hone hother).mpr (.inl rfl)

/-- With a tab in place of the space, the credentials are logged. -/
theorem tab_shows_credentials :
    Text.Solid "Basic".toList ∧ Text.Gap "\t".toList ∧
      (Demo.request "Basic\tYTpi" "/token" "").header? "authorization" =
        some ("Basic" ++ "\t" ++ "YTpi") ∧
      (Demo.request "Basic\tYzpk" "/token" "").header? "authorization" =
        some ("Basic" ++ "\t" ++ "Yzpk") ∧
      (Demo.request "Basic\tYTpi" "/token" "").authorizationScheme = some "basic\tytpi" ∧
      Layer.requestFields (Demo.request "Basic\tYTpi" "/token" "") ≠
        Layer.requestFields (Demo.request "Basic\tYzpk" "/token" "") := by
  have hone : (Demo.request "Basic\tYTpi" "/token" "").authorizationScheme =
      some "basic\tytpi" := by decide
  have hother : (Demo.request "Basic\tYzpk" "/token" "").authorizationScheme =
      some "basic\tyzpk" := by decide
  refine ⟨⟨by decide, List.all_iff_forall_prop.mp (by decide)⟩,
    ⟨by decide, List.all_iff_forall_prop.mp (by decide)⟩, Demo.header_request _ _ _,
    Demo.header_request _ _ _, hone, ?_⟩
  rw [ne_eq, requestFields_eq_iff (agreeBut_demo _ _ _ _), hone, hother]
  decide

end TokenIssuer.Http
