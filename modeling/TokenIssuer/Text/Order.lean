/-!
Texts in the order of their code points, as lists and as sets. A set of texts is the list of its
members in that order without repetition, so that equal sets are equal lists.
-/

namespace TokenIssuer.Text

/-- Puts a text into an ordered list, before the first one that is not less. -/
def insertText (s : String) : List String → List String
  | [] => [s]
  | t :: ts => if t < s then t :: insertText s ts else s :: t :: ts

/-- The texts in order; repetitions stay. -/
def sortTexts (ss : List String) : List String := ss.foldr insertText []

def insertMember (s : String) : List String → List String
  | [] => [s]
  | t :: ts =>
    if s = t then t :: ts
    else if t < s then t :: insertMember s ts
    else s :: t :: ts

def setOf (ss : List String) : List String := ss.foldr insertMember []

@[simp] theorem mem_insertMember (s t : String) (ss : List String) :
    t ∈ insertMember s ss ↔ t = s ∨ t ∈ ss := by
  induction ss with
  | nil => simp [insertMember]
  | cons u us ih =>
    rw [insertMember]
    by_cases h : s = u
    · subst h; simp
    · rw [if_neg h]
      by_cases hlt : u < s
      · rw [if_pos hlt]; simp only [List.mem_cons, ih, or_left_comm]
      · rw [if_neg hlt]; simp

theorem mem_insertText (s t : String) (ss : List String) :
    t ∈ insertText s ss ↔ t = s ∨ t ∈ ss := by
  induction ss with
  | nil => simp [insertText]
  | cons u us ih =>
    rw [insertText]
    split
    · simp only [List.mem_cons, ih, or_left_comm]
    · simp

theorem mem_sortTexts (t : String) (ss : List String) : t ∈ sortTexts ss ↔ t ∈ ss := by
  induction ss with
  | nil => simp [sortTexts]
  | cons s ss ih =>
    change t ∈ insertText s (sortTexts ss) ↔ _
    rw [mem_insertText, ih, List.mem_cons]

@[simp] theorem mem_setOf (t : String) (ss : List String) : t ∈ setOf ss ↔ t ∈ ss := by
  induction ss with
  | nil => simp [setOf]
  | cons s ss ih =>
    change t ∈ insertMember s (setOf ss) ↔ _
    simp [ih]

end TokenIssuer.Text
