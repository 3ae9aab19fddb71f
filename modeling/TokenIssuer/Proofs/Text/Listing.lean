import TokenIssuer.Proofs.Text

/-!
Lists written as one text: the items in order with a separator between them, where pieces that write
no item may stand anywhere. What is written so is read by cutting the text at the separators and
passing over the void pieces.
-/

namespace TokenIssuer.Text

/-- The pieces write the items in order; a void piece writes none. -/
inductive Lists {α : Type} (void : List Char → Prop) (writes : List Char → α → Prop) :
    List (List Char) → List α → Prop where
  | nil : Lists void writes [] []
  | void {piece : List Char} {pieces : List (List Char)} {items : List α} (none : void piece)
      (rest : Lists void writes pieces items) : Lists void writes (piece :: pieces) items
  | item {piece : List Char} {x : α} {pieces : List (List Char)} {items : List α}
      (one : writes piece x) (rest : Lists void writes pieces items) :
      Lists void writes (piece :: pieces) (x :: items)

/-- The text writes the items in order, in pieces with the separator between them. -/
def Listing {α : Type} (sep : Char) (void : List Char → Prop) (writes : List Char → α → Prop)
    (text : List Char) (items : List α) : Prop :=
  ∃ pieces, pieces ≠ [] ∧ (∀ piece ∈ pieces, sep ∉ piece) ∧ text = join [sep] pieces ∧
    Lists void writes pieces items

section

variable {α : Type} {sep : Char} {void : List Char → Prop} {writes : List Char → α → Prop}
  {keep : List Char → Bool} {read : List Char → α} {pieces : List (List Char)} {items : List α}
  {text : List Char}

/-- A reader that passes over the void pieces and reads the others reads the items. -/
theorem read_of_lists (h : Lists void writes pieces items)
    (passed : ∀ piece, void piece → keep piece = false)
    (kept : ∀ piece x, writes piece x → keep piece = true ∧ read piece = x) :
    (pieces.filter keep).map read = items := by
  induction h with
  | nil => rfl
  | @void piece _ _ none _ ih =>
    rw [List.filter_cons_of_neg (by rw [passed piece none]; exact Bool.false_ne_true)]
    exact ih
  | @item piece x _ _ one _ ih =>
    obtain ⟨hkeep, hread⟩ := kept piece x one
    rw [List.filter_cons_of_pos hkeep, List.map_cons, hread, ih]

theorem lists_of_read (passed : ∀ piece ∈ pieces, keep piece = false → void piece)
    (kept : ∀ piece ∈ pieces, keep piece = true → writes piece (read piece)) :
    Lists void writes pieces ((pieces.filter keep).map read) := by
  induction pieces with
  | nil => exact .nil
  | cons piece pieces ih =>
    have hrest := ih (fun other ho => passed other (List.mem_cons_of_mem piece ho))
      (fun other ho => kept other (List.mem_cons_of_mem piece ho))
    cases hkeep : keep piece with
    | false =>
      rw [List.filter_cons_of_neg (by rw [hkeep]; exact Bool.false_ne_true)]
      exact .void (passed piece List.mem_cons_self hkeep) hrest
    | true =>
      rw [List.filter_cons_of_pos hkeep, List.map_cons]
      exact .item (kept piece List.mem_cons_self hkeep) hrest

theorem read_of_listing (h : Listing sep void writes text items)
    (passed : ∀ piece, void piece → keep piece = false)
    (kept : ∀ piece x, writes piece x → keep piece = true ∧ read piece = x) :
    ((splitOn sep text).filter keep).map read = items := by
  obtain ⟨pieces, hne, hsep, rfl, hlists⟩ := h
  rw [splitOn_join hne hsep]
  exact read_of_lists hlists passed kept

/-- Every text lists what a reader finds in it, if the reader only passes over void pieces and reads
of the others what they write. -/
theorem listing_of_read (passed : ∀ piece, sep ∉ piece → keep piece = false → void piece)
    (kept : ∀ piece, sep ∉ piece → keep piece = true → writes piece (read piece)) :
    Listing sep void writes text (((splitOn sep text).filter keep).map read) :=
  ⟨splitOn sep text, splitOn_ne_nil sep text, fun _ => notMem_of_mem_splitOn,
    (join_splitOn sep text).symm,
    lists_of_read (fun piece hp => passed piece (notMem_of_mem_splitOn hp))
      (fun piece hp => kept piece (notMem_of_mem_splitOn hp))⟩

end

end TokenIssuer.Text
