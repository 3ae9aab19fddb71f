import TokenIssuer.Http.Fault
import TokenIssuer.Proofs.Encoding.Percent
import TokenIssuer.Proofs.Http.Form
import TokenIssuer.Proofs.Text.Case
import TokenIssuer.Proofs.Text.Listing
import TokenIssuer.Proofs.Utf8.Canonical

/-!
Forms as clients write them are read back. Of the fields of any other text either all are read, or
the first name that comes again is told.
-/

namespace TokenIssuer.Http.Form

/-! ## The media type -/

/-- The value gives the media type of forms, in letters of either case and with blanks around it;
parameters may follow. -/
def NamesType (value : List Char) : Prop :=
  ∃ left word right parameters, value = left ++ word ++ right ++ parameters ∧ Text.Blank left ∧
    Text.Blank right ∧ Text.lowerAscii word = expectedType.toList ∧
    (parameters = [] ∨ ∃ more, parameters = ';' :: more)

theorem requestType_of_namesType {r : Request} {value : String}
    (header : r.header? "content-type" = some value) (h : NamesType value.toList) :
    requestType r = expectedType.toList := by
  obtain ⟨left, word, right, parameters, hvalue, hl, hr, hword, hparameters⟩ := h
  -- The first semicolon, if there is any, begins the parameters.
  have hsemicolon : ';' ∉ left ++ word ++ right := by
    have hmargin {s : List Char} (h : Text.Blank s) : ';' ∉ s :=
      fun hs => absurd (h _ hs) (by decide)
    rw [List.mem_append, List.mem_append, not_or, not_or]
    exact ⟨⟨hmargin hl, Text.notMem_of_lowerAscii hword (by decide) (by decide)⟩, hmargin hr⟩
  have hbefore : Text.before ';' value.toList = left ++ word ++ right := by
    unfold Text.before
    rw [hvalue]
    rcases hparameters with rfl | ⟨more, rfl⟩
    · rw [List.append_nil, Text.cut_of_notMem hsemicolon]
    · rw [Text.cut_eq_some_iff.mpr ⟨rfl, hsemicolon⟩]
  have hne : word ≠ [] := by
    rintro rfl
    exact absurd hword (by decide)
  have hbare {c : Char} (hc : c ∈ word) : Text.isBlank c = false :=
    Text.isBlank_of_lowerAscii hword (by decide) hc
  have htrim : Text.trim (left ++ word ++ right) = word :=
    Text.dropAround_between left right hl hr hne (hbare (List.head_mem hne))
      (hbare (List.getLast_mem hne))
  unfold requestType
  rw [header, Option.getD_some, hbefore, htrim, Text.lower_of_lowerAscii hword (by decide)]

/-! ## The fields -/

/-- The piece writes the field: the name, an equals sign and the value, both form-encoded. The
equals sign may be left out before an empty value, if something is left then. -/
inductive Writes : List Char → String × String → Prop where
  | pair {n v : List Char} {name value : String} (equals : '=' ∉ n)
      (named : Percent.Spells n name.toList) (valued : Percent.Spells v value.toList) :
      Writes (n ++ '=' :: v) (name, value)
  | bare {n : List Char} {name : String} (some : n ≠ []) (equals : '=' ∉ n)
      (named : Percent.Spells n name.toList) : Writes n (name, "")

/-- The text is an encoding of the form: its fields in order between ampersands, among which nothing
may stand as well. -/
def Encodes (text : List Char) (form : Form) : Prop :=
  Text.Listing '&' (fun piece => piece = []) Writes text form

/-- What stands between ampersands, where anything does. -/
def segments (text : List Char) : List (List Char) := (Text.splitOn '&' text).filter (!·.isEmpty)

/-- The name and the value of a field. -/
def strings (field : List Char × List Char) : String × String :=
  (String.ofList field.1, String.ofList field.2)

/-- The field that a segment is read as. -/
def field (segment : List Char) : String × String := strings (Percent.pair segment)

theorem field_of_writes {piece : List Char} {f : String × String} (h : Writes piece f) :
    field piece = f := by
  unfold field strings Percent.pair
  cases h with
  | pair equals named valued =>
    rw [Text.cut_eq_some_iff.mpr ⟨rfl, equals⟩]
    simp only [Option.getD_some]
    rw [Percent.decodeForm_of_spells named, Percent.decodeForm_of_spells valued,
      String.ofList_toList, String.ofList_toList]
  | bare some equals named =>
    rw [Text.cut_of_notMem equals]
    simp only [Option.getD_none]
    rw [Percent.decodeForm_of_spells named, String.ofList_toList]
    rfl

theorem ne_nil_of_writes {piece : List Char} {f : String × String} (h : Writes piece f) :
    piece ≠ [] := by
  cases h with
  | pair _ _ _ => exact List.append_ne_nil_of_right_ne_nil _ (List.cons_ne_nil _ _)
  | bare some _ _ => exact some

theorem segments_of_encodes {text : List Char} {form : Form} (h : Encodes text form) :
    (segments text).map field = form := by
  apply Text.read_of_listing h
  · rintro piece rfl
    rfl
  · intro piece f hwrites
    rw [Bool.not_eq_true', List.isEmpty_eq_false_iff]
    exact ⟨ne_nil_of_writes hwrites, field_of_writes hwrites⟩

/-! ## Names that come again -/

/-- The name is the first of the list that stands in it before as well. -/
def FirstRepeated (name : String) (names : List String) : Prop :=
  ∃ before after, names = before ++ name :: after ∧ name ∈ before ∧ before.Nodup

theorem FirstRepeated.not_nodup {name : String} {names : List String}
    (h : FirstRepeated name names) : ¬ names.Nodup := by
  obtain ⟨before, after, rfl, hmem, -⟩ := h
  intro hnodup
  exact (List.nodup_append.mp hnodup).2.2 name hmem name List.mem_cons_self rfl

/-- Among distinct names the name does not come again, so that what comes next is the other one. -/
theorem eq_of_between {name other : String} {before between after after' : List String}
    (hmem : name ∈ before) (hnodup : (before ++ between).Nodup)
    (hrest : name :: after = between ++ other :: after') : name = other := by
  cases between with
  | nil => exact (List.cons.inj hrest).1
  | cons x xs =>
    obtain ⟨rfl, -⟩ := List.cons.inj hrest
    exact absurd rfl ((List.nodup_append.mp hnodup).2.2 name hmem name List.mem_cons_self)

theorem FirstRepeated.unique {name other : String} {names : List String}
    (h : FirstRepeated name names) (also : FirstRepeated other names) : name = other := by
  obtain ⟨before, after, rfl, hmem, hnodup⟩ := h
  obtain ⟨before', after', heq, hmem', hnodup'⟩ := also
  -- One of the two stands no later than the other.
  rcases List.append_eq_append_iff.mp heq with ⟨between, hbefore, hrest⟩ | ⟨between, hbefore, hrest⟩
  · rw [hbefore] at hnodup'
    exact eq_of_between hmem hnodup' hrest
  · rw [hbefore] at hnodup
    exact (eq_of_between hmem' hnodup hrest).symm

/-- Collecting ends with all fields, or at the first name that comes again. -/
theorem collect_cases {form : Form} (fields : List (List Char × List Char))
    (distinct : (form.map (·.1)).Nodup) :
    (((form ++ fields.map strings).map (·.1)).Nodup ∧
        collect form fields = .ok (form ++ fields.map strings)) ∨
      ∃ name, FirstRepeated name ((form ++ fields.map strings).map (·.1)) ∧
        collect form fields = .error (.repeated name) := by
  induction fields generalizing form with
  | nil =>
    rw [List.map_nil, List.append_nil]
    exact .inl ⟨distinct, rfl⟩
  | cons first rest ih =>
    obtain ⟨name, value⟩ := first
    have hall : form ++ ((name, value) :: rest).map strings =
        form ++ [strings (name, value)] ++ rest.map strings := by
      rw [List.map_cons, List.append_assoc, List.singleton_append]
    have hknown : (form.lookup (String.ofList name)).isSome ↔
        String.ofList name ∈ form.map (·.1) := by
      rw [List.lookup_isSome_iff, List.mem_map]
      simp only [beq_iff_eq, @eq_comm _ (String.ofList name)]
    rw [collect, hall]
    by_cases hrepeated : String.ofList name ∈ form.map (·.1)
    · simp only [if_pos (hknown.mpr hrepeated)]
      refine .inr ⟨String.ofList name, ⟨form.map (·.1), rest.map fun f => String.ofList f.1, ?_,
        hrepeated, distinct⟩, rfl⟩
      simp [strings]
    · simp only [if_neg (mt hknown.mp hrepeated)]
      -- What is collected so far grows by a field with a name of its own.
      apply ih
      rw [List.map_append, List.nodup_append]
      refine ⟨distinct, List.pairwise_singleton _ _, ?_⟩
      rintro key hkey _ hname rfl
      rw [List.mem_singleton.mp hname] at hkey
      exact hrepeated hkey

/-- The names in a text in order. -/
def names (text : List Char) : List String := (segments text).map fun segment => (field segment).1

theorem decode_encode_cases (text : List Char) :
    ((names text).Nodup ∧ decode (Utf8.encode text) = .ok ((segments text).map field)) ∨
      ∃ name, FirstRepeated name (names text) ∧
        decode (Utf8.encode text) = .error (.repeated name) := by
  have hcases := @collect_cases [] (Percent.pairs text) List.nodup_nil
  have hfields : (Percent.pairs text).map strings = (segments text).map field :=
    List.map_map
  unfold decode names
  rw [Utf8.decode?_encode]
  rw [List.nil_append, hfields, List.map_map] at hcases
  exact hcases

/-- What a request with the media type of forms is read as, by its body. The first name that comes
again is told of a form with repetitions; all its fields are read of any other. -/
structure Reads (r : Request) (text : List Char) : Prop where
  repeated (name : String) : read r = .error (.repeated name) ↔ FirstRepeated name (names text)
  repeats : (∃ name, read r = .error (.repeated name)) ↔ ¬ (names text).Nodup
  fields (distinct : (names text).Nodup) : read r = .ok ((segments text).map field)

theorem reads_of_type {r : Request} {text : List Char}
    (type : requestType r = expectedType.toList) (body : r.body = Utf8.encode text) :
    Reads r text := by
  have hread : read r = decode (Utf8.encode text) := by rw [read_of_type type, body]
  rcases decode_encode_cases text with ⟨hnodup, hdecode⟩ | ⟨name, hfirst, hdecode⟩
  · have hnone (name : String) : read r ≠ .error (.repeated name) := by
      rw [hread, hdecode]
      exact fun h => nomatch h
    exact {
      repeated := fun name => iff_of_false (hnone name) fun h => h.not_nodup hnodup
      repeats := iff_of_false (fun ⟨name, h⟩ => hnone name h) (not_not_intro hnodup)
      fields := fun _ => hread.trans hdecode }
  · have hfail : read r = .error (.repeated name) := hread.trans hdecode
    exact {
      repeated := fun other => by
        rw [hfail, Except.error.injEq, Fault.repeated.injEq]
        constructor
        · rintro rfl
          exact hfirst
        · exact hfirst.unique
      repeats := iff_of_true ⟨name, hfail⟩ hfirst.not_nodup
      fields := fun hnodup => absurd hnodup hfirst.not_nodup }

/-- A form is refused as no text for the bytes of the body, and for no others. -/
theorem read_eq_notText_iff {r : Request} (type : requestType r = expectedType.toList) :
    read r = .error .notText ↔ ¬ Utf8.WellFormed r.body := by
  rw [read_of_type type]
  constructor
  · rintro hnotText ⟨text, hbody⟩
    rw [hbody] at hnotText
    rcases decode_encode_cases text with ⟨-, hdecode⟩ | ⟨name, -, hdecode⟩
    all_goals rw [hdecode] at hnotText; cases hnotText
  · intro illFormed
    rw [decode, Utf8.decode?_eq_none_iff.mpr illFormed]

/-- A form is read as it was encoded, whichever way that was done. Of any text the fields are read
in order, one for each segment, unless a name comes again; the first that does is told then. What is
no text is refused. Neither depends on the parameters behind the media type. -/
theorem read_undoes_encoding {r : Request} {value : String}
    (header : r.header? "content-type" = some value) (type : NamesType value.toList) :
    (∀ text form, r.body = Utf8.encode text → Encodes text form → (form.map (·.1)).Nodup →
        read r = .ok form) ∧
      (∀ text, r.body = Utf8.encode text → Reads r text) ∧
      (¬ Utf8.WellFormed r.body → read r = .error .notText) ∧
      (∀ name, Http.Fault.ofForm (.repeated name) =
        .invalidRequest ("repeated parameter: " ++ name)) ∧
      Http.Fault.ofForm .notText = .invalidRequest "request body is not valid UTF-8" := by
  have htype := requestType_of_namesType header type
  refine ⟨fun text form body encodes distinct => ?_, fun text body => reads_of_type htype body,
    (read_eq_notText_iff htype).mpr, fun _ => rfl, rfl⟩
  have hfields := segments_of_encodes encodes
  have hnames : names text = form.map (·.1) := by
    rw [← hfields, List.map_map]
    rfl
  rw [(reads_of_type htype body).fields (hnames ▸ distinct), hfields]

/-- A request whose content type has a parameter. -/
def parameterizedRequest (body : List UInt8) : Request :=
  { method := "POST", path := "/token", query := ""
    headers := [("Content-Type", " Application/X-WWW-Form-URLencoded ; charset=UTF-8")], body
    peer := none }

theorem header_parameterizedRequest (body : List UInt8) :
    (parameterizedRequest body).header? "content-type" =
      some " Application/X-WWW-Form-URLencoded ; charset=UTF-8" := by rfl

theorem namesType_parameterized :
    NamesType " Application/X-WWW-Form-URLencoded ; charset=UTF-8".toList :=
  ⟨[' '], "Application/X-WWW-Form-URLencoded".toList, [' '], "; charset=UTF-8".toList, by decide,
    Text.blank_of_allBlank rfl, Text.blank_of_allBlank rfl, by decide,
    .inr ⟨" charset=UTF-8".toList, by decide⟩⟩

theorem encodes_mixed :
    Encodes "na%6De=%c3%A9+&&=&flag".toList [("name", "é "), ("", ""), ("flag", "")] := by
  have hm : Percent.SpellsBytes ['%', '6', 'D'] (String.utf8EncodeChar 'm') := .byte rfl rfl .nil
  have hname : Percent.Spells ['n', 'a', '%', '6', 'D', 'e'] ['n', 'a', 'm', 'e'] :=
    .plain (by decide) (by decide) (.plain (by decide) (by decide)
      (.spelled hm (Percent.spells_self (s := ['e']) (by simp))))
  have haccented : Percent.SpellsBytes ['%', 'c', '3', '%', 'A', '9'] (String.utf8EncodeChar 'é') :=
    .byte rfl rfl (.byte rfl rfl .nil)
  have hvalue : Percent.Spells ['%', 'c', '3', '%', 'A', '9', '+'] ['é', ' '] :=
    .spelled haccented (.space .nil)
  have hpair : Writes (['n', 'a', '%', '6', 'D', 'e'] ++ '=' :: ['%', 'c', '3', '%', 'A', '9', '+'])
      ("name", "é ") := .pair (by decide) hname hvalue
  have hempty : Writes ([] ++ '=' :: []) ("", "") := .pair List.not_mem_nil .nil .nil
  have hbare : Writes ['f', 'l', 'a', 'g'] ("flag", "") :=
    .bare (by decide) (by decide) (Percent.spells_self (by simp))
  exact ⟨["na%6De=%c3%A9+".toList, [], ['='], "flag".toList], by decide, by decide, by decide,
    .item hpair (.void rfl (.item hempty (.item hbare .nil)))⟩

theorem read_undoes_encoding_parameterized :
    read (parameterizedRequest (Utf8.encode "na%6De=%c3%A9+&&=&flag".toList)) =
        .ok [("name", "é "), ("", ""), ("flag", "")] ∧
      read (parameterizedRequest (Utf8.encode "a%62=1&ab=2&c".toList)) =
        .error (.repeated "ab") ∧
      read (parameterizedRequest [0xFF]) = .error .notText := by
  have hread (body : List UInt8) :=
    read_undoes_encoding (header_parameterizedRequest body) namesType_parameterized
  refine ⟨?_, ?_, ?_⟩
  · exact (hread _).1 _ _ rfl encodes_mixed (by decide)
  · have hfirst : FirstRepeated "ab" (names "a%62=1&ab=2&c".toList) :=
      ⟨["ab"], ["c"], by rfl, List.mem_singleton_self _, List.pairwise_singleton _ _⟩
    exact (((hread _).2.1 _ rfl).repeated "ab").mpr hfirst
  · exact (hread _).2.2.1 (Utf8.decode?_eq_none_iff.mp rfl)

end TokenIssuer.Http.Form
