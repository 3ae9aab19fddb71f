import TokenIssuer.Proofs.Http.Credentials
import TokenIssuer.Proofs.Text.Case

/-! Header values in which clients present credentials, and what is read of them. -/

namespace TokenIssuer.Base64

theorem encodePadded_ne_nil {bytes : List UInt8} (h : bytes ≠ []) : encodePadded bytes ≠ [] := by
  apply List.append_ne_nil_of_left_ne_nil
  fun_cases encode bytes with
  | case1 => exact absurd rfl h
  | case2 => exact List.cons_ne_nil _ _
  | case3 => exact List.cons_ne_nil _ _
  | case4 => exact List.cons_ne_nil _ _

theorem isBlank_of_mem_encodePadded {c : Char} {bytes : List UInt8} (h : c ∈ encodePadded bytes) :
    Text.isBlank c = false := by
  have hall : ∀ n < 0x80, (value? (Char.ofNat n)).isSome → Text.isBlank (Char.ofNat n) = false := by
    decide +kernel
  rcases List.mem_append.mp h with h | h
  · have hvalue := isSome_value?_of_mem_encode h
    exact Text.of_toNat_lt (P := fun c => (value? c).isSome → Text.isBlank c = false) hall c
      (toNat_lt_of_value? hvalue) hvalue
  · rw [(List.mem_replicate.mp h).2]
    decide

end TokenIssuer.Base64

namespace TokenIssuer.Http.Basic

/-- The value presents the text: the word Basic in letters of either case, at least one space and
the text in Base64, with or without blanks around it all. -/
def Presents (value text : List Char) : Prop :=
  ∃ left word more right,
    value = left ++ (word ++ List.replicate (more + 1) ' ' ++
      Base64.encodePadded (Utf8.encode text)) ++ right ∧
    Text.Blank left ∧ Text.Blank right ∧ Text.lowerAscii word = "basic".toList

theorem of_presents {header : String} {text : List Char} (h : Presents header.toList text)
    (some : text ≠ []) :
    IsBasic (.some header) ∧
      encoded (.some header) = Base64.encodePadded (Utf8.encode text) := by
  obtain ⟨left, word, more, right, hvalue, hl, hr, hword⟩ := h
  generalize hcode : Base64.encodePadded (Utf8.encode text) = code at hvalue ⊢
  have hne : code ≠ [] := by
    rw [← hcode]
    apply Base64.encodePadded_ne_nil
    obtain ⟨c, cs, rfl⟩ := List.exists_cons_of_ne_nil some
    exact List.append_ne_nil_of_left_ne_nil String.utf8EncodeChar_ne_nil _
  have hbare {c : Char} (hc : c ∈ code) : Text.isBlank c = false :=
    Base64.isBlank_of_mem_encodePadded (hcode ▸ hc)
  have hwordne : word ≠ [] := by
    rintro rfl
    exact absurd hword (by decide)
  have hhead : Text.isBlank (word.head hwordne) = false :=
    Text.isBlank_of_lowerAscii hword (by decide) (List.head_mem hwordne)
  -- The blanks around cannot reach into the word, nor into what is written in Base64.
  have htrim : value (.some header) = word ++ List.replicate (more + 1) ' ' ++ code := by
    unfold value
    rw [Option.getD_some, hvalue]
    apply Text.dropAround_between left right hl hr (List.append_ne_nil_of_right_ne_nil _ hne)
    · rwa [List.head_append_of_ne_nil (List.append_ne_nil_of_left_ne_nil hwordne _),
        List.head_append_of_ne_nil hwordne]
    · rw [List.getLast_append_of_ne_nil _ hne]
      exact hbare (List.getLast_mem hne)
  -- The first space stands behind the word; the others are trimmed off what follows it.
  have hspace : ' ' ∉ word := Text.notMem_of_lowerAscii hword (by decide) (by decide)
  have hcut : Text.cut ' ' (value (.some header)) =
      (word, .some (List.replicate more ' ' ++ code)) :=
    Text.cut_eq_some_iff.mpr
      ⟨by rw [htrim, List.replicate_succ, List.append_assoc, List.cons_append], hspace⟩
  constructor
  · unfold IsBasic
    rw [hcut, Text.lower_of_lowerAscii hword (by decide)]
    rfl
  · unfold encoded
    rw [hcut, Option.getD_some]
    have hmargin : Text.dropAround Text.isBlank (List.replicate more ' ' ++ code ++ []) = code :=
      Text.dropAround_between _ [] (fun c hc => by rw [(List.mem_replicate.mp hc).2]; rfl)
        (fun c hc => absurd hc List.not_mem_nil) hne (hbare (List.head_mem hne))
        (hbare (List.getLast_mem hne))
    rwa [List.append_nil] at hmargin

/-- What a client writes is read back. Its parts may be form-encoded in any way that leaves no colon
in the first. -/
theorem read_of_presents {header : String} {credentials : Credentials} {id secret : List Char}
    (named : credentials.clientId ≠ "") (hid : Percent.Spells id credentials.clientId.toList)
    (hcolon : ':' ∉ id) (hsecret : Percent.Spells secret credentials.secret.toList)
    (h : Presents header.toList (id ++ ':' :: secret)) :
    read (.some header) = .ok (.some credentials) := by
  obtain ⟨hbasic, hencoded⟩ :=
    of_presents h (List.append_ne_nil_of_right_ne_nil _ (List.cons_ne_nil _ _))
  apply read_of_holds
  exact holds_of_carries ⟨hbasic, id, secret, hid, hsecret, hcolon, hencoded⟩ named

/-- That something stands before the colon is seen before it is decoded, and stays true after. -/
theorem Holds.named {header : Option String} {credentials : Credentials}
    (h : Holds header credentials) : credentials.clientId ≠ "" := by
  obtain ⟨-, _, id, _, -, -, hne, -, rfl⟩ := h
  rw [Ne, ← String.toList_inj, String.toList_ofList]
  exact Percent.decodeForm_ne_nil hne

end TokenIssuer.Http.Basic
