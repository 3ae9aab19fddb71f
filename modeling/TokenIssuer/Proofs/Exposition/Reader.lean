import Mathlib.Data.Nat.Init
import TokenIssuer.Metrics.Exposition

/-!
A reader of the text format for samples, and what it reads of a series. The reader knows no metric:
a sample is a name, labels in braces, and a value behind a space. The value of a label stands in
quotes; in it a backslash, a quote and a line feed are written with a backslash.
-/

namespace TokenIssuer.Metrics

structure Sample where
  name : String
  labels : List (String × String)
  /-- The characters of the value. -/
  value : String
  deriving DecidableEq, Repr

namespace Sample

def isNameChar (c : Char) : Bool := c.isAlphanum || c == '_' || c == ':'

/-- Reads a name, which does not begin with a digit. -/
def readName (text : List Char) : Option (String × List Char) :=
  match text.takeWhile isNameChar with
  | [] => none
  | c :: cs =>
    if c.isDigit then none else some (String.ofList (c :: cs), text.dropWhile isNameChar)

/-- The character that is written with a backslash and another one. -/
def escaped? (c : Char) : Option Char :=
  if c = '\\' then some '\\' else if c = '"' then some '"' else if c = 'n' then some '\n' else none

/-- Reads the value of a label up to the quote that ends it. -/
def readValue : List Char → Option (List Char × List Char)
  | [] => none
  | '"' :: rest => some ([], rest)
  | ['\\'] => none
  | '\\' :: c :: rest => do
    let plain ← escaped? c
    let (value, rest) ← readValue rest
    some (plain :: value, rest)
  | c :: rest => do
    let (value, rest) ← readValue rest
    some (c :: value, rest)

def readLabel (text : List Char) : Option ((String × String) × List Char) := do
  let (name, rest) ← readName text
  match rest with
  | '=' :: '"' :: rest =>
    let (value, rest) ← readValue rest
    some ((name, String.ofList value), rest)
  | _ => none

theorem length_readName {text rest : List Char} {name : String}
    (h : readName text = some (name, rest)) : rest.length ≤ text.length := by
  unfold readName at h
  split at h
  · cases h
  · split at h
    · cases h
    · cases h
      exact (List.dropWhile_sublist _).length_le

theorem readValue_cons {c : Char} (hquote : c ≠ '"') (hslash : c ≠ '\\') (rest : List Char) :
    readValue (c :: rest) = (readValue rest).map fun (value, rest) => (c :: value, rest) := by
  rw [readValue]
  · cases readValue rest <;> rfl
  · exact hquote
  · exact fun h _ => hslash h
  · exact fun d more h _ => hslash h

theorem readValue_slash (c : Char) (rest : List Char) :
    readValue ('\\' :: c :: rest) =
      (escaped? c).bind fun plain =>
        (readValue rest).map fun (value, rest) => (plain :: value, rest) := by
  cases h : readValue rest <;> simp only [readValue, h] <;> rfl

theorem length_readValue {text value rest : List Char}
    (h : readValue text = some (value, rest)) : rest.length < text.length := by
  induction text using readValue.induct generalizing value rest with
  | case1 => cases h
  | case2 tail => cases h; exact Nat.lt_succ_self _
  | case3 => cases h
  | case4 c tail ih =>
    rw [readValue_slash] at h
    obtain ⟨plain, -, h⟩ := Option.bind_eq_some_iff.mp h
    obtain ⟨⟨more, left⟩, hmore, h⟩ := Option.map_eq_some_iff.mp h
    cases h
    have hless := ih hmore
    simp only [List.length_cons]
    omega
  | case5 c tail hquote hlast hslash ih =>
    -- A backslash at the end of the text, or before a character, is one of the cases above.
    have hother : c ≠ '\\' := by
      rintro rfl
      cases tail with
      | nil => exact hlast rfl rfl
      | cons d ds => exact hslash d ds rfl rfl
    rw [readValue_cons hquote hother] at h
    obtain ⟨⟨more, left⟩, hmore, h⟩ := Option.map_eq_some_iff.mp h
    cases h
    exact Nat.lt_succ_of_lt (ih hmore)

theorem length_readLabel {text rest : List Char} {found : String × String}
    (h : readLabel text = some (found, rest)) : rest.length < text.length := by
  obtain ⟨⟨name, more⟩, hname, h⟩ := Option.bind_eq_some_iff.mp h
  have hmore := length_readName hname
  simp only at h
  split at h
  · obtain ⟨⟨value, left⟩, hvalue, h⟩ := Option.bind_eq_some_iff.mp h
    cases h
    have hless := length_readValue hvalue
    show left.length < _
    simp only [List.length_cons] at hmore
    omega
  · cases h

/-- Reads labels up to the brace that ends them; a comma may stand before the brace. -/
def readLabels (text : List Char) : Option (List (String × String) × List Char) :=
  match h : readLabel text with
  | some (found, ',' :: more) =>
    have := length_readLabel h
    (readLabels more).map fun (labels, rest) => (found :: labels, rest)
  | some (found, '}' :: rest) => some ([found], rest)
  | some _ => none
  | none =>
    match text with
    | '}' :: rest => some ([], rest)
    | _ => none
termination_by text.length
decreasing_by
  simp only [List.length_cons] at this
  omega

/-- Reads one line. -/
def read (line : List Char) : Option Sample := do
  let (name, rest) ← readName line
  let (labels, rest) ← match rest with
    | '{' :: rest => readLabels rest
    | rest => some ([], rest)
  match rest with
  | ' ' :: value => some ⟨name, labels, String.ofList value⟩
  | _ => none

/-- Reads a value that is a whole number. -/
def readCount (value : String) : Option Nat :=
  if value.toList ≠ [] ∧ value.toList.all Char.isDigit then
    some (Nat.ofDigitChars 10 value.toList 0)
  else none

/-! ## What is read of a name, a value and a label -/

/-- The text can be read as a name. -/
def IsName (name : String) : Prop :=
  name.toList.all isNameChar ∧ name.toList.head?.any fun c => !c.isDigit

instance (name : String) : Decidable (IsName name) := inferInstanceAs (Decidable (_ ∧ _))

theorem readName_append {name : String} (h : IsName name) {rest : List Char}
    (hrest : ∀ c ∈ rest.head?, isNameChar c = false) :
    readName (name.toList ++ rest) = some (name, rest) := by
  obtain ⟨hchars, hfirst⟩ := h
  have hall : ∀ c ∈ name.toList, isNameChar c = true := List.all_eq_true.mp hchars
  have htake : rest.takeWhile isNameChar = [] := by
    cases rest with
    | nil => rfl
    | cons c cs => exact List.takeWhile_cons_of_neg (by rw [hrest c rfl]; exact Bool.false_ne_true)
  have hdrop : rest.dropWhile isNameChar = rest := by
    cases rest with
    | nil => rfl
    | cons c cs => exact List.dropWhile_cons_of_neg (by rw [hrest c rfl]; exact Bool.false_ne_true)
  unfold readName
  rw [List.takeWhile_append_of_pos hall, htake, List.append_nil,
    List.dropWhile_append_of_pos hall, hdrop]
  cases hname : name.toList with
  | nil => rw [hname] at hfirst; cases hfirst
  | cons c cs =>
    rw [hname] at hfirst
    have hdigit : ¬ c.isDigit = true := by simpa using hfirst
    simp only
    rw [if_neg hdigit, ← hname, String.ofList_toList]

theorem readName_eq_none {c : Char} (h : isNameChar c = false) (rest : List Char) :
    readName (c :: rest) = none := by
  unfold readName
  rw [List.takeWhile_cons_of_neg (by rw [h]; exact Bool.false_ne_true)]

/-- A character is read as what it was written for. -/
theorem readValue_labelChar (c : Char) (more : List Char) :
    readValue (labelChar c ++ more) =
      (readValue more).map fun (value, rest) => (c :: value, rest) := by
  unfold labelChar
  by_cases hslash : c = '\\'
  · rw [if_pos hslash, hslash]
    exact readValue_slash '\\' more
  by_cases hquote : c = '"'
  · rw [if_neg hslash, if_pos hquote, hquote]
    exact readValue_slash '"' more
  by_cases hfeed : c = '\n'
  · rw [if_neg hslash, if_neg hquote, if_pos hfeed, hfeed]
    exact readValue_slash 'n' more
  · rw [if_neg hslash, if_neg hquote, if_neg hfeed]
    exact readValue_cons hquote hslash more

/-- The quote that ends a value is the first one that is not written with a backslash. -/
theorem readValue_escaped (value rest : List Char) :
    readValue (value.flatMap labelChar ++ '"' :: rest) = some (value, rest) := by
  induction value with
  | nil => rw [List.flatMap_nil, List.nil_append, readValue]
  | cons c cs ih =>
    rw [List.flatMap_cons, List.append_assoc, readValue_labelChar, ih]
    rfl

theorem readLabel_label {name : String} (h : IsName name) (value : String) (rest : List Char) :
    readLabel ((label name value).toList ++ rest) = some ((name, value), rest) := by
  have hlabel : (label name value).toList ++ rest =
      name.toList ++ '=' :: '"' :: (value.toList.flatMap labelChar ++ '"' :: rest) := by
    unfold label escapeLabel
    simp only [String.toList_append, String.toList_ofList, List.append_assoc]
    rfl
  unfold readLabel
  rw [hlabel, readName_append h (by rintro c ⟨⟩; decide)]
  show Option.bind (readValue _) _ = _
  rw [readValue_escaped, Option.bind_some]
  simp only [String.ofList_toList]

theorem readCount_toString (n : Nat) : readCount (toString n) = some n := by
  have hdigits : (Nat.toDigits 10 n).all Char.isDigit :=
    List.all_eq_true.mpr fun _ hc => Nat.isDigit_of_mem_toDigits (by omega) (by omega) hc
  unfold readCount
  rw [Nat.toString_eq_repr, Nat.toList_repr, if_pos ⟨Nat.toDigits_ne_nil, hdigits⟩,
    Nat.ofDigitChars_ten_toDigits]

/-! ## What is read of a series -/

theorem readLabels_end (rest : List Char) : readLabels ('}' :: rest) = some ([], rest) := by
  have hnone : readLabel ('}' :: rest) = none := by
    unfold readLabel
    rw [readName_eq_none (by decide)]
    rfl
  rw [readLabels]
  split <;> rename_i h
  · rw [hnone] at h; cases h
  · rw [hnone] at h; cases h
  · rw [hnone] at h; cases h
  · rfl

theorem readLabels_of_last {text rest : List Char} {found : String × String}
    (h : readLabel text = some (found, '}' :: rest)) :
    readLabels text = some ([found], rest) := by
  rw [readLabels]
  split <;> rename_i heq
  · rw [h] at heq; cases heq
  · rw [h] at heq; cases heq; rfl
  · next hother => rw [h] at heq; cases heq; exact absurd rfl (hother _ _)
  · rw [h] at heq; cases heq

theorem readLabels_of_more {text more : List Char} {found : String × String}
    (h : readLabel text = some (found, ',' :: more)) :
    readLabels text = (readLabels more).map fun (labels, rest) => (found :: labels, rest) := by
  rw [readLabels]
  split <;> rename_i heq
  · rw [h] at heq; cases heq; rfl
  · rw [h] at heq; cases heq
  · next hother _ => rw [h] at heq; cases heq; exact absurd rfl (hother _ _)
  · rw [h] at heq; cases heq

/-- The labels as they are written. -/
def written (labels : List (String × String)) : List String := labels.map fun l => label l.1 l.2

theorem readLabels_written {labels : List (String × String)} (h : ∀ l ∈ labels, IsName l.1)
    (rest : List Char) :
    readLabels ((",".intercalate (written labels)).toList ++ '}' :: rest) =
      some (labels, rest) := by
  -- The induction follows the labels: behind one there is the brace, or a comma and another one.
  induction labels with
  | nil => exact readLabels_end rest
  | cons l ls ih =>
    have hl := h l List.mem_cons_self
    have hls := ih fun m hm => h m (List.mem_cons_of_mem l hm)
    cases ls with
    | nil => exact readLabels_of_last (readLabel_label hl l.2 ('}' :: rest))
    | cons m ms =>
      have hcomma : (",".intercalate (written (l :: m :: ms))).toList ++ '}' :: rest =
          (label l.1 l.2).toList ++
            ',' :: ((",".intercalate (written (m :: ms))).toList ++ '}' :: rest) := by
        simp only [written, List.map_cons, String.toList_intercalate, List.intercalate,
          List.intersperse, List.flatten_cons, List.append_assoc]
        rfl
      rw [hcomma, readLabels_of_more (readLabel_label hl l.2 _), hls]
      rfl

/-- The line of a sample. -/
def line (s : Sample) : String := series s.name (written s.labels) ++ " " ++ s.value

/-- The names in a sample can be read. -/
def Named (s : Sample) : Prop := IsName s.name ∧ ∀ l ∈ s.labels, IsName l.1

/-- A line is read as the sample it was written for, whatever the values of its labels are. -/
theorem read_line {s : Sample} (h : s.Named) : read s.line.toList = some s := by
  obtain ⟨hname, hlabels⟩ := h
  have hline : s.line.toList = s.name.toList ++
      '{' :: ((",".intercalate (written s.labels)).toList ++ '}' :: ' ' :: s.value.toList) := by
    unfold line series
    simp only [String.toList_append, List.append_assoc]
    rfl
  unfold read
  rw [hline, readName_append hname (by rintro c ⟨⟩; decide)]
  show Option.bind (readLabels _) _ = _
  rw [readLabels_written hlabels, Option.bind_some]
  simp only [String.ofList_toList]

-- A path with what would end the sample and begin another one.
example : read (line ⟨"m", [("path", "/\"\x7d 1\nm\x7bpath=\"\\")], "2"⟩).toList =
    some ⟨"m", [("path", "/\"\x7d 1\nm\x7bpath=\"\\")], "2"⟩ := by cbv

end Sample

end TokenIssuer.Metrics
