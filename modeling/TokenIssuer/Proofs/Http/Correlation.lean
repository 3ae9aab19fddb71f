import TokenIssuer.Http.Layer
import TokenIssuer.Proofs.Uuid

/-! The correlation id of a request: the one that it brings along, or else a fresh one. -/

namespace TokenIssuer.Http

/-- The characters a correlation id is made of. -/
def correlationLetters : List Char :=
  "ABCDEFGHIJKLMNOPQRSTUVWXYZabcdefghijklmnopqrstuvwxyz0123456789._-".toList

/-- A text that will do as a correlation id. -/
structure IsCorrelationId (id : List Char) : Prop where
  nonempty : 1 ≤ id.length
  short : id.length ≤ 128
  letters : ∀ c ∈ id, c ∈ correlationLetters

/-- The correlation id that goes with a header value, when another one is at hand: the value itself,
blanks around it aside, or the other one if the value will not do. -/
inductive Identified (value : List Char) (other : Uuid) : String → Prop where
  | brought {left right : List Char} {id : String} (blankLeft : ∀ c ∈ left, Text.isBlank c)
      (blankRight : ∀ c ∈ right, Text.isBlank c) (valid : IsCorrelationId id.toList)
      (spelled : value = left ++ id.toList ++ right) : Identified value other id
  | generated (invalid : ∀ left id right : List Char, (∀ c ∈ left, Text.isBlank c) →
      (∀ c ∈ right, Text.isBlank c) → value = left ++ id ++ right → ¬ IsCorrelationId id) :
      Identified value other other.text

variable {frame : Frame} {value id : List Char}

theorem isBlank_of_mem_correlationLetters {c : Char} (h : c ∈ correlationLetters) :
    Text.isBlank c = false := by
  have hall : correlationLetters.all (fun c => !Text.isBlank c) = true := by decide
  rw [← Bool.not_eq_true', List.all_eq_true.mp hall c h]

theorem isCorrelationChar_iff (c : Char) :
    Request.isCorrelationChar c = true ↔ c ∈ correlationLetters := by
  have hall : ∀ n < 0x80, Request.isCorrelationChar (Char.ofNat n) = true →
      Char.ofNat n ∈ correlationLetters := by decide +kernel
  have hletters : correlationLetters.all Request.isCorrelationChar = true := by decide
  refine ⟨fun h => ?_, List.all_eq_true.mp hletters c⟩
  have hbelow (d : Char) (hd : d.toNat < 0x80) (hc : c ≤ d) : c.toNat < 0x80 :=
    Nat.lt_of_le_of_lt hc hd
  -- Such a character is in ASCII, where all of them can be tried.
  have hc : c.toNat < 0x80 := by
    have hcases := h
    unfold Request.isCorrelationChar at hcases
    simp only [Bool.or_eq_true, Bool.and_eq_true, decide_eq_true_eq, beq_iff_eq] at hcases
    rcases hcases with ((((hu | hl) | hd) | rfl) | rfl) | rfl
    · exact hbelow 'Z' (by decide) hu.2
    · exact hbelow 'z' (by decide) hl.2
    · exact hbelow '9' (by decide) hd.2
    · decide
    · decide
    · decide
  exact Text.of_toNat_lt (P := fun c => Request.isCorrelationChar c = true →
    c ∈ correlationLetters) hall c hc h

theorem isCorrelationId_iff : IsCorrelationId id ↔
    1 ≤ id.length ∧ id.length ≤ 128 ∧ id.all Request.isCorrelationChar = true := by
  simp only [List.all_eq_true, isCorrelationChar_iff]
  exact ⟨fun h => ⟨h.nonempty, h.short, h.letters⟩, fun ⟨hn, hs, hl⟩ => ⟨hn, hs, hl⟩⟩

theorem isCorrelationId_text (u : Uuid) : IsCorrelationId u.text.toList := by
  have hall : ∀ n < 0x80, (Text.hexValue? (Char.ofNat n)).isSome →
      Char.ofNat n ∈ correlationLetters := by decide +kernel
  unfold Uuid.text
  rw [String.toList_ofList]
  refine ⟨?_, ?_, fun c hc => ?_⟩
  · rw [Uuid.length_chars]; omega
  · rw [Uuid.length_chars]; omega
  · rcases Uuid.hyphen_or_hex_of_mem_chars hc with rfl | hx
    · decide
    · exact Text.of_toNat_lt (P := fun c => (Text.hexValue? c).isSome → c ∈ correlationLetters)
        hall c (Text.toNat_lt_of_hexValue? hx) hx

theorem IsCorrelationId.trim_eq (h : IsCorrelationId id) {left right : List Char}
    (blankLeft : ∀ c ∈ left, Text.isBlank c) (blankRight : ∀ c ∈ right, Text.isBlank c) :
    Text.trim (left ++ id ++ right) = id := by
  have hne : id ≠ [] := List.ne_nil_of_length_pos h.nonempty
  have hletter (c : Char) (hc : c ∈ id) : Text.isBlank c = false :=
    isBlank_of_mem_correlationLetters (h.letters c hc)
  exact Text.dropAround_between left right blankLeft blankRight hne
    (hletter _ (List.head_mem hne)) (hletter _ (List.getLast_mem hne))

/-- The value of the header that carries the correlation id; empty for an absent header. -/
def Request.correlationValue (r : Request) : List Char :=
  ((r.header? correlationHeader).getD "").toList

theorem correlationIdOf_of_valid (h : IsCorrelationId (Text.trim frame.request.correlationValue)) :
    Layer.correlationIdOf frame = String.ofList (Text.trim frame.request.correlationValue) := by
  have hbrought : frame.request.correlationId? =
      some (String.ofList (Text.trim frame.request.correlationValue)) :=
    if_pos (isCorrelationId_iff.mp h)
  unfold Layer.correlationIdOf
  rw [hbrought, Option.getD_some]

theorem correlationIdOf_of_invalid
    (h : ¬ IsCorrelationId (Text.trim frame.request.correlationValue)) :
    Layer.correlationIdOf frame = frame.fresh.correlation.text := by
  have hnone : frame.request.correlationId? = none :=
    if_neg fun valid => h (isCorrelationId_iff.mpr valid)
  unfold Layer.correlationIdOf
  rw [hnone, Option.getD_none]

/-- The one correlation id that goes with the header of a request is the one it is known by. -/
theorem identified_iff {name : String} :
    Identified frame.request.correlationValue frame.fresh.correlation name ↔
      Layer.correlationIdOf frame = name := by
  constructor
  · intro h
    cases h with
    | brought blankLeft blankRight valid spelled =>
      have htrim := valid.trim_eq blankLeft blankRight
      rw [← spelled] at htrim
      rw [correlationIdOf_of_valid (by rw [htrim]; exact valid), htrim, String.ofList_toList]
    -- What trimming leaves is one way to read the value, so that it will not do.
    | generated invalid =>
      obtain ⟨left, right, hleft, hright, hspelled⟩ :=
        Text.exists_dropAround Text.isBlank frame.request.correlationValue
      exact correlationIdOf_of_invalid (invalid left _ right hleft hright hspelled)
  · rintro rfl
    by_cases hvalid : IsCorrelationId (Text.trim frame.request.correlationValue)
    · obtain ⟨left, right, hleft, hright, hspelled⟩ :=
        Text.exists_dropAround Text.isBlank frame.request.correlationValue
      rw [correlationIdOf_of_valid hvalid]
      exact .brought hleft hright (by rw [String.toList_ofList]; exact hvalid)
        (by rw [String.toList_ofList]; exact hspelled)
    · rw [correlationIdOf_of_invalid hvalid]
      refine .generated fun left id right hleft hright hspelled valid => hvalid ?_
      rw [hspelled, valid.trim_eq hleft hright]
      exact valid

theorem identified_correlationIdOf (frame : Frame) :
    Identified frame.request.correlationValue frame.fresh.correlation
      (Layer.correlationIdOf frame) := by
  rw [identified_iff]

theorem Identified.valid {other : Uuid} {name : String} (h : Identified value other name) :
    IsCorrelationId name.toList := by
  cases h with
  | brought _ _ valid _ => exact valid
  | generated _ => exact isCorrelationId_text other

end TokenIssuer.Http
