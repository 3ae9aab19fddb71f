import TokenIssuer.Json.Parser
import TokenIssuer.Proofs.Result

/-! Texts that are read keep the form of their code points that has no other spelling. -/

namespace TokenIssuer

/-- A text is kept as code points only when it has halves of surrogate pairs in it. -/
def Phrase.Proper : Phrase → Prop
  | .plain _ => True
  | .torn codePoints => codePoints.any isHalf

theorem Phrase.proper_ofCodePoints (codePoints : List Nat) : (ofCodePoints codePoints).Proper := by
  unfold ofCodePoints
  split
  · assumption
  · trivial

namespace Json

/-- Every text in the value is kept in its own form. -/
inductive Proper : Json → Prop where
  | null : Proper .null
  | bool (b : Bool) : Proper (.bool b)
  | int (n : Int) : Proper (.int n)
  | float (x : Double) : Proper (.float x)
  | str (s : String) : Proper (.str s)
  | torn {codePoints : List Nat} (halves : codePoints.any Phrase.isHalf) :
      Proper (.torn codePoints)
  | arr {items : List Json} (each : ∀ v ∈ items, Proper v) : Proper (.arr items)
  | obj {fields : List (String × Json)} (each : ∀ f ∈ fields, Proper f.2) : Proper (.obj fields)

theorem Proper.ofPhrase {p : Phrase} (h : p.Proper) : (ofPhrase p).Proper := by
  cases p with
  | plain text => exact .str text
  | torn codePoints => exact .torn h

theorem Proper.phrase {value : Json} {p : Phrase} (h : value.Proper) (hp : value.phrase? = some p) :
    p.Proper := by
  cases h with
  | str s => cases hp; trivial
  | torn halves => cases hp; exact halves
  | _ => cases hp

/-- The values of an object are proper ones. -/
theorem Proper.fields {value : Json} (h : value.Proper) : ∀ f ∈ value.fields, f.2.Proper := by
  cases h with
  | obj each => exact each
  | _ => exact List.forall_mem_nil _

theorem proper_lookup {fields : List (String × Json)} (h : ∀ f ∈ fields, f.2.Proper)
    {name : String} {value : Json} (hv : fields.lookup name = some value) : value.Proper := by
  induction fields with
  | nil => cases hv
  | cons f fs ih =>
    rw [List.lookup_cons] at hv
    split at hv
    · cases hv
      exact h f List.mem_cons_self
    · exact ih (fun g hg => h g (List.mem_cons_of_mem f hg)) hv

theorem Proper.get {value found : Json} {name : String} (h : value.Proper)
    (hv : value.get? name = some found) : found.Proper :=
  proper_lookup h.fields hv

theorem proper_put {fields : List (String × Json)} (h : ∀ f ∈ fields, f.2.Proper) (name : String)
    {value : Json} (hv : value.Proper) : ∀ f ∈ Assoc.put name value fields, f.2.Proper := by
  induction fields with
  | nil => exact List.forall_mem_singleton.mpr hv
  | cons f fs ih =>
    obtain ⟨hf, hfs⟩ := List.forall_mem_cons.mp h
    rw [Assoc.put]
    split
    · exact List.forall_mem_cons.mpr ⟨hv, hfs⟩
    · exact List.forall_mem_cons.mpr ⟨hf, ih hfs⟩

/-! ## What the reader gives -/

variable {s rest : List Char} {value : Json}

theorem proper_number (h : number s = .ok (value, rest)) : value.Proper := by
  unfold number at h
  split at h
  split at h
  · cases h
  · simp only at h
    split at h
    · split at h
      · cases h; exact .int _
      · cases h
    · cases h; exact .float _

theorem proper_scalar (h : scalar s = .ok (value, rest)) : value.Proper := by
  unfold scalar at h
  split at h
  · next word found hw =>
    cases h
    have hwords : ∀ w ∈ words, w.2.Proper := by
      intro w hw
      simp only [words, List.mem_cons, List.not_mem_nil, or_false] at hw
      rcases hw with rfl | rfl | rfl | rfl | rfl | rfl
      · exact .null
      · exact .bool true
      · exact .bool false
      · exact .float _
      · exact .float _
      · exact .float _
    exact hwords _ (List.mem_of_find?_eq_some hw)
  · exact proper_number h

/-- With some fuel only proper values are read. -/
structure ReadsProper (fuel : Nat) : Prop where
  value {depth : Nat} {s : List Char} {v : Json} {rest : List Char}
    (h : readValue fuel depth s = .ok (v, rest)) : v.Proper
  items {depth : Nat} {s : List Char} {vs : List Json} {rest : List Char}
    (h : readItems fuel depth s = .ok (vs, rest)) : ∀ v ∈ vs, v.Proper
  fields {depth : Nat} {seen : List (String × Json)} {s : List Char}
    {fs : List (String × Json)} {rest : List Char} (before : ∀ f ∈ seen, f.2.Proper)
    (h : readFields fuel depth seen s = .ok (fs, rest)) : ∀ f ∈ fs, f.2.Proper

variable {fuel depth : Nat}

theorem ReadsProper.value_succ (ih : ReadsProper fuel) {v : Json}
    (h : readValue (fuel + 1) depth s = .ok (v, rest)) : v.Proper := by
  unfold readValue at h
  simp only at h
  split at h
  · obtain ⟨⟨text, _⟩, -, h⟩ := bind_eq_ok_iff.mp h
    cases h
    exact .ofPhrase (Phrase.proper_ofCodePoints text)
  · cases h
  · split at h
    · cases h; exact .arr (List.forall_mem_nil _)
    · obtain ⟨⟨values, _⟩, hitems, h⟩ := bind_eq_ok_iff.mp h
      cases h
      exact .arr (ih.items hitems)
  · cases h
  · split at h
    · cases h; exact .obj (List.forall_mem_nil _)
    · obtain ⟨⟨fs, _⟩, hfields, h⟩ := bind_eq_ok_iff.mp h
      cases h
      exact .obj (ih.fields (List.forall_mem_nil _) hfields)
  · exact proper_scalar h

theorem ReadsProper.items_succ (ih : ReadsProper fuel) {vs : List Json}
    (h : readItems (fuel + 1) depth s = .ok (vs, rest)) : ∀ v ∈ vs, v.Proper := by
  unfold readItems at h
  obtain ⟨⟨value, _⟩, hvalue, h⟩ := bind_eq_ok_iff.mp h
  simp only at h
  split at h
  · cases h
    exact List.forall_mem_singleton.mpr (ih.value hvalue)
  · obtain ⟨⟨values, _⟩, hvalues, h⟩ := bind_eq_ok_iff.mp h
    cases h
    exact List.forall_mem_cons.mpr ⟨ih.value hvalue, ih.items hvalues⟩
  · cases h

theorem ReadsProper.fields_succ (ih : ReadsProper fuel) {seen fs : List (String × Json)}
    (before : ∀ f ∈ seen, f.2.Proper)
    (h : readFields (fuel + 1) depth seen s = .ok (fs, rest)) : ∀ f ∈ fs, f.2.Proper := by
  unfold readFields at h
  simp only at h
  split at h
  · obtain ⟨⟨name, _⟩, -, h⟩ := bind_eq_ok_iff.mp h
    simp only at h
    split at h
    · obtain ⟨⟨value, _⟩, hvalue, h⟩ := bind_eq_ok_iff.mp h
      have hseen := proper_put before (String.ofList (name.map Phrase.charOf)) (ih.value hvalue)
      simp only at h
      split at h
      · cases h
        exact hseen
      · exact ih.fields hseen h
      · cases h
    · cases h
  · cases h

theorem readsProper (fuel : Nat) : ReadsProper fuel := by
  induction fuel with
  | zero =>
    refine ⟨fun h => ?_, fun h => ?_, fun _ h => ?_⟩
    · unfold readValue at h; cases h
    · unfold readItems at h; cases h
    · unfold readFields at h; cases h
  | succ fuel ih => exact ⟨ih.value_succ, ih.items_succ, ih.fields_succ⟩

theorem proper_parse (h : parse s = .ok value) : value.Proper := by
  unfold parse at h
  simp only at h
  split at h
  · cases h
  · obtain ⟨⟨read, _⟩, hread, h⟩ := bind_eq_ok_iff.mp h
    simp only at h
    split at h
    · cases h
      exact (readsProper _).value hread
    · cases h

end Json

end TokenIssuer
