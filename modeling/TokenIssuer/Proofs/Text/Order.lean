import TokenIssuer.Text.Order

/-! A set of texts is one list: its members in strict order, however they were put together. -/

namespace TokenIssuer.Text

variable {ss ts : List String}

/-- A new member goes before the first one that is greater, so that the order stays strict. -/
theorem strict_insertMember (s : String) (h : ss.Pairwise (· < ·)) :
    (insertMember s ss).Pairwise (· < ·) := by
  induction ss with
  | nil => exact List.pairwise_singleton _ s
  | cons t ts ih =>
    obtain ⟨hleast, hts⟩ := List.pairwise_cons.mp h
    rw [insertMember]
    by_cases heq : s = t
    · rw [if_pos heq]
      exact h
    rw [if_neg heq]
    by_cases hlt : t < s
    · rw [if_pos hlt, List.pairwise_cons]
      refine ⟨fun u hu => ?_, ih hts⟩
      rcases (mem_insertMember s u ts).mp hu with rfl | hu
      · exact hlt
      · exact hleast u hu
    · rw [if_neg hlt, List.pairwise_cons]
      -- Of two different texts one is less.
      have hst : s < t := by
        apply Classical.byContradiction
        intro hle
        exact heq (String.le_antisymm (String.not_lt.mp hlt) (String.not_lt.mp hle))
      refine ⟨fun u hu => ?_, h⟩
      rcases List.mem_cons.mp hu with rfl | hu
      · exact hst
      · exact String.lt_trans hst (hleast u hu)

theorem strict_setOf (ss : List String) : (setOf ss).Pairwise (· < ·) := by
  induction ss with
  | nil => exact .nil
  | cons s ss ih => exact strict_insertMember s ih

theorem nodup_of_strict (h : ss.Pairwise (· < ·)) : ss.Nodup := by
  apply h.imp
  intro s t hlt heq
  rw [heq] at hlt
  exact String.lt_irrefl t hlt

theorem nodup_setOf (ss : List String) : (setOf ss).Nodup :=
  nodup_of_strict (strict_setOf ss)

/-- Of distinct texts the set has as many members as there are texts. -/
theorem length_setOf (h : ss.Nodup) : (setOf ss).length = ss.length := by
  have hperm : (setOf ss).Perm ss :=
    (List.perm_ext_iff_of_nodup (nodup_setOf ss) h).mpr fun t => mem_setOf t ss
  exact hperm.length_eq

theorem eq_of_strict (hs : ss.Pairwise (· < ·)) (ht : ts.Pairwise (· < ·))
    (h : ∀ t, t ∈ ss ↔ t ∈ ts) : ss = ts := by
  have hperm : ss.Perm ts :=
    (List.perm_ext_iff_of_nodup (nodup_of_strict hs) (nodup_of_strict ht)).mpr h
  exact hperm.eq_of_pairwise (fun _ _ _ _ hlt hgt => absurd hgt (String.lt_asymm hlt)) hs ht

/-- Sets with the same members are the same list. -/
theorem setOf_congr (h : ∀ t, t ∈ ss ↔ t ∈ ts) : setOf ss = setOf ts := by
  apply eq_of_strict (strict_setOf ss) (strict_setOf ts)
  intro t
  rw [mem_setOf, mem_setOf, h]

theorem setOf_of_strict (h : ss.Pairwise (· < ·)) : setOf ss = ss :=
  eq_of_strict (strict_setOf ss) h fun t => mem_setOf t ss

theorem insertText_eq_insertMember {s : String} (h : s ∉ ss) :
    insertText s ss = insertMember s ss := by
  induction ss with
  | nil => rfl
  | cons t ts ih =>
    rw [List.mem_cons, not_or] at h
    rw [insertText, insertMember, if_neg h.1, ih h.2]

theorem perm_insertText (s : String) (ss : List String) :
    (insertText s ss).Perm (s :: ss) := by
  induction ss with
  | nil => exact .refl _
  | cons t ts ih =>
    rw [insertText]
    split
    · exact (ih.cons t).trans (.swap s t ts)
    · exact .refl _

theorem perm_sortTexts (ss : List String) : (sortTexts ss).Perm ss := by
  induction ss with
  | nil => exact .refl _
  | cons s ss ih => exact (perm_insertText s (sortTexts ss)).trans (ih.cons s)

/-- Sorting drops nothing, so it makes a set only of texts that come once. -/
theorem sortTexts_eq_setOf (h : ss.Nodup) : sortTexts ss = setOf ss := by
  induction ss with
  | nil => rfl
  | cons s ss ih =>
    obtain ⟨hs, hss⟩ := List.nodup_cons.mp h
    show insertText s (sortTexts ss) = insertMember s (setOf ss)
    rw [ih hss]
    apply insertText_eq_insertMember
    rw [mem_setOf]
    exact hs

end TokenIssuer.Text
