import Mathlib.Data.List.Forall2
import TokenIssuer.Http.Form

/-!
Which bodies hold a form; forms that differ in the values of one name only, and the texts they are
read from.
-/

namespace TokenIssuer.Http

namespace Form

/-- The body is a text in UTF-8, and no name comes twice in it. -/
def WellFormed (body : List UInt8) : Prop :=
  ∃ text, Utf8.decode? body = some text ∧ ((Percent.pairs text).map (·.1)).Nodup

/-- Fields are collected as long as their names are new. -/
theorem collect_succeeds_iff {form : Form} {fields : List (List Char × List Char)} :
    (∃ f, collect form fields = .ok f) ↔
      (fields.map (·.1)).Nodup ∧ ∀ p ∈ fields, form.lookup (String.ofList p.1) = none := by
  induction fields generalizing form with
  | nil => exact iff_of_true ⟨form, rfl⟩ ⟨List.nodup_nil, fun p hp => absurd hp List.not_mem_nil⟩
  | cons field rest ih =>
    obtain ⟨name, value⟩ := field
    rw [collect]
    simp only [List.map_cons, List.nodup_cons, List.forall_mem_cons]
    cases hl : form.lookup (String.ofList name) with
    | some found => exact iff_of_false (by simp) fun h => by simp at h
    | none =>
      -- What is collected so far grows by a field whose name the rest must not have.
      have hgrown (key : List Char) :
          (form ++ [(String.ofList name, String.ofList value)]).lookup (String.ofList key) = none ↔
            form.lookup (String.ofList key) = none ∧ key ≠ name := by
        rw [List.lookup_append, Option.or_eq_none_iff, List.lookup_cons]
        by_cases he : key = name
        · simp [he]
        · have hne : (String.ofList key == String.ofList name) = false := by
            rw [beq_eq_false_iff_ne]
            exact fun h => he (String.ofList_injective h)
          simp [hne, he]
      rw [if_neg (by simp), ih]
      simp only [hgrown, List.mem_map, not_exists, not_and]
      constructor
      · rintro ⟨hnodup, hnew⟩
        exact ⟨⟨fun p hp he => (hnew p hp).2 he, hnodup⟩, trivial, fun p hp => (hnew p hp).1⟩
      · rintro ⟨⟨hfresh, hnodup⟩, -, hnew⟩
        exact ⟨hnodup, fun p hp => ⟨hnew p hp, hfresh p hp⟩⟩

theorem decode_succeeds_iff {body : List UInt8} :
    (∃ form, decode body = .ok form) ↔ WellFormed body := by
  unfold decode WellFormed
  cases Utf8.decode? body with
  | none => exact iff_of_false (by simp) (by simp)
  | some text =>
    simp only [Option.some.injEq, exists_eq_left']
    rw [collect_succeeds_iff]
    exact and_iff_left fun p _ => rfl

theorem collect_ne_mediaType (form : Form) (fields : List (List Char × List Char)) :
    collect form fields ≠ .error .mediaType := by
  induction fields generalizing form with
  | nil => exact fun h => nomatch h
  | cons field rest ih =>
    rw [collect]
    split
    · simp
    · exact ih _

/-- What is wrong with a body is not its media type. -/
theorem decode_ne_mediaType (body : List UInt8) : decode body ≠ .error .mediaType := by
  unfold decode
  cases Utf8.decode? body with
  | none => simp
  | some text => exact collect_ne_mediaType [] _

theorem read_of_otherType {r : Request} (h : requestType r ≠ expectedType.toList) :
    read r = .error .mediaType :=
  if_neg h

theorem read_of_type {r : Request} (h : requestType r = expectedType.toList) :
    read r = decode r.body :=
  if_pos h

end Form

/-- Fields of one name that have one value as well, unless the name is the one given. -/
def SameField {κ ν : Type} (name : κ) (f g : κ × ν) : Prop := f.1 = g.1 ∧ (f.1 ≠ name → f.2 = g.2)

/-- The forms have the same fields in the same order, but for the values of the name. -/
abbrev SameFields (name : String) : Form → Form → Prop := List.Forall₂ (SameField name)

namespace SameFields

variable {name key : String} {f g : Form}

theorem isSome_lookup (h : SameFields name f g) (key : String) :
    (f.lookup key).isSome = (g.lookup key).isSome := by
  induction h with
  | nil => rfl
  | @cons a b f g hab _ ih =>
    rw [List.lookup_cons, List.lookup_cons, hab.1]
    cases key == b.1
    · exact ih
    · rfl

theorem lookup (h : SameFields name f g) (hk : key ≠ name) : f.lookup key = g.lookup key := by
  induction h with
  | nil => rfl
  | @cons a b f g hab _ ih =>
    rw [List.lookup_cons, List.lookup_cons, hab.1]
    cases hb : key == b.1 with
    | false => exact ih
    | true =>
      have hkey : key = b.1 := beq_iff_eq.mp hb
      have hvalue : a.2 = b.2 := hab.2 (by rw [hab.1, ← hkey]; exact hk)
      exact congrArg some hvalue

theorem refl (name : String) (f : Form) : SameFields name f f :=
  List.forall₂_same.mpr fun _ _ => ⟨rfl, fun _ => rfl⟩

end SameFields

/-- Both readings end in the same fault, or both in forms that have the same fields. -/
def ReadAlike (name : String) (one other : Except Form.Fault Form) : Prop :=
  (∃ fault, one = .error fault ∧ other = .error fault) ∨
    ∃ f g, one = .ok f ∧ other = .ok g ∧ SameFields name f g

theorem ReadAlike.refl (name : String) (read : Except Form.Fault Form) :
    ReadAlike name read read := by
  cases read with
  | error fault => exact .inl ⟨fault, rfl, rfl⟩
  | ok f => exact .inr ⟨f, f, rfl, rfl, .refl name f⟩

/-- A name that comes again is found in both texts at the same place, whatever the values are. -/
theorem readAlike_collect {name : String} {ps qs : List (List Char × List Char)}
    (h : List.Forall₂ (SameField name.toList) ps qs) {f g : Form} (hf : SameFields name f g) :
    ReadAlike name (Form.collect f ps) (Form.collect g qs) := by
  induction h generalizing f g with
  | nil => exact .inr ⟨f, g, rfl, rfl, hf⟩
  | @cons p q ps qs hpq _ ih =>
    obtain ⟨key, v⟩ := p
    obtain ⟨key', w⟩ := q
    obtain ⟨rfl, hvalue⟩ : key = key' ∧ (key ≠ name.toList → v = w) := hpq
    rw [Form.collect, Form.collect]
    simp only [hf.isSome_lookup]
    -- Both forms hold the same names so far, so both are refused or neither is.
    by_cases hrepeated : (g.lookup (String.ofList key)).isSome
    · rw [if_pos hrepeated, if_pos hrepeated]
      exact .inl ⟨_, rfl, rfl⟩
    · rw [if_neg hrepeated, if_neg hrepeated]
      apply ih
      have hfield : SameField name (String.ofList key, String.ofList v)
          (String.ofList key, String.ofList w) := by
        refine ⟨rfl, fun hne => ?_⟩
        have hkey : key ≠ name.toList := by
          rintro rfl
          exact hne String.ofList_toList
        exact congrArg String.ofList (hvalue hkey)
      exact List.rel_append hf (.cons hfield .nil)

/-- The bodies are texts of the same fields, but for the values of the name. -/
def SameBodies (name : String) (one other : List UInt8) : Prop :=
  ∃ s t, Utf8.decode? one = some s ∧ Utf8.decode? other = some t ∧
    List.Forall₂ (SameField name.toList) (Percent.pairs s) (Percent.pairs t)

theorem readAlike_of_sameBodies {name : String} {one other : Request}
    (type : one.header? "content-type" = other.header? "content-type")
    (h : SameBodies name one.body other.body) :
    ReadAlike name (Form.read one) (Form.read other) := by
  obtain ⟨s, t, hs, ht, hfields⟩ := h
  have htype : Form.requestType one = Form.requestType other := by
    unfold Form.requestType
    rw [type]
  unfold Form.read Form.decode
  rw [htype, hs, ht]
  split
  · exact readAlike_collect hfields .nil
  · exact .inl ⟨_, rfl, rfl⟩

end TokenIssuer.Http
