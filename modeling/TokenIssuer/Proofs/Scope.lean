import TokenIssuer.Scope

/-! Which scope texts are read, and as what. -/

namespace TokenIssuer.Scope

variable {registry : Registry} {raw : String} {names : List String}

theorem tokens_empty : tokens "" = [] := by decide

/-- A scope text is read when its names are known and come once, and as the set of them. -/
theorem Registry.parseText_eq_ok_iff :
    registry.parseText raw = .ok names ↔
      tokens raw ≠ [] ∧ (∀ name ∈ tokens raw, registry.knows name) ∧ (tokens raw).Nodup ∧
        names = Text.setOf (tokens raw) := by
  unfold Registry.parseText
  -- The empty text is refused for a reason of its own, and has no names either.
  by_cases hempty : raw = ""
  · subst hempty
    rw [if_pos rfl]
    simp [tokens_empty]
  rw [if_neg hempty]
  by_cases hblank : tokens raw = []
  · rw [if_pos hblank]
    simp [hblank]
  rw [if_neg hblank]
  by_cases hknown : (tokens raw).all registry.knows
  · have hall := List.all_eq_true.mp hknown
    rw [if_neg (by rw [hknown]; exact Bool.false_ne_true)]
    by_cases hnodup : (tokens raw).Nodup
    · rw [if_neg (not_not_intro hnodup), Except.ok.injEq]
      constructor
      · intro h
        exact ⟨hblank, hall, hnodup, h.symm⟩
      · intro h
        exact h.2.2.2.symm
    · rw [if_pos hnodup]
      simp [hnodup]
  · rw [if_pos (by simpa using hknown)]
    constructor
    · intro h
      exact absurd h (by simp)
    · intro h
      exact absurd (List.all_eq_true.mpr h.2.1) hknown

/-- The names that are read are exactly the ones asked for, and there is at least one. -/
theorem Registry.of_parseText (h : registry.parseText raw = .ok names) :
    names ≠ [] ∧ ∀ name, name ∈ names ↔ name ∈ tokens raw := by
  obtain ⟨hne, -, -, rfl⟩ := Registry.parseText_eq_ok_iff.mp h
  refine ⟨fun hnil => ?_, fun name => Text.mem_setOf name (tokens raw)⟩
  obtain ⟨name, hname⟩ := List.exists_mem_of_ne_nil _ hne
  rw [← Text.mem_setOf, hnil] at hname
  exact absurd hname List.not_mem_nil

theorem ne_empty_of_mem_tokens {name : String} (h : name ∈ tokens raw) : name ≠ "" := by
  obtain ⟨piece, hpiece, rfl⟩ := List.mem_map.mp h
  have hne : piece ≠ [] := by simpa using (List.mem_filter.mp hpiece).2
  rw [Ne, ← String.toList_inj, String.toList_ofList]
  exact hne

/-- What is written for names that were read is never the empty text. -/
theorem format_ne_empty (h : registry.parseText raw = .ok names) : format names ≠ "" := by
  obtain ⟨hne, hmem⟩ := Registry.of_parseText h
  obtain ⟨name, hname⟩ := List.exists_mem_of_ne_nil _ hne
  have hpiece : name.toList ∈ (Text.sortTexts names).map String.toList :=
    List.mem_map_of_mem ((Text.mem_sortTexts name names).mpr hname)
  have hchars : name.toList ≠ [] := by
    rw [Ne, String.toList_eq_nil_iff]
    exact ne_empty_of_mem_tokens ((hmem name).mp hname)
  rw [Ne, ← String.toList_inj, format, String.toList_ofList]
  exact Text.join_ne_nil hpiece hchars

end TokenIssuer.Scope
