/-!
Blanks, and the ways a text is trimmed and cut. A text is a list of characters here: every rule of
this library that looks inside a string is stated on its characters.
-/

namespace TokenIssuer.Text

/-- The characters that count as blank when a text is trimmed or asked to hold anything: the
Unicode blanks and the control characters that separate lines and records. U+200B and U+FEFF are
not among them. -/
def isBlank (c : Char) : Bool :=
  let n := c.toNat
  (9 ≤ n && n ≤ 13) || (0x1C ≤ n && n ≤ 0x20) || n == 0x85 || n == 0xA0 || n == 0x1680 ||
    (0x2000 ≤ n && n ≤ 0x200A) || n == 0x2028 || n == 0x2029 || n == 0x202F || n == 0x205F ||
    n == 0x3000

def dropEndWhile (p : Char → Bool) (s : List Char) : List Char :=
  (s.reverse.dropWhile p).reverse

def dropAround (p : Char → Bool) (s : List Char) : List Char :=
  dropEndWhile p (s.dropWhile p)

def trim (s : List Char) : List Char := dropAround isBlank s

/-- Every character is a blank; the empty text is blank. -/
def allBlank (s : List Char) : Bool := s.all isBlank

/-- The pieces between the separators: one more than there are separators. -/
def splitOn (sep : Char) : List Char → List (List Char)
  | [] => [[]]
  | c :: cs =>
    if c = sep then [] :: splitOn sep cs
    else
      match splitOn sep cs with
      | [] => [[c]]
      | piece :: pieces => (c :: piece) :: pieces

/-- What stands before the first separator, and what stands after it if there is one. -/
def cut (sep : Char) : List Char → List Char × Option (List Char)
  | [] => ([], none)
  | c :: cs =>
    if c = sep then ([], some cs)
    else
      let (before, after) := cut sep cs
      (c :: before, after)

def before (sep : Char) (s : List Char) : List Char := (cut sep s).1

def contains (part : List Char) : List Char → Bool
  | [] => part.isEmpty
  | c :: cs => part.isPrefixOf (c :: cs) || contains part cs

/-- Writes `new` for every occurrence of `old`, from the left, when `old` is not empty. -/
def replace (old new : List Char) (s : List Char) : List Char :=
  go s.length s
where
  /-- At most `fuel` steps, one for each character or occurrence passed. -/
  go : Nat → List Char → List Char
    | 0, s => s
    | _ + 1, [] => []
    | fuel + 1, c :: cs =>
      if !old.isEmpty && old.isPrefixOf (c :: cs) then new ++ go fuel ((c :: cs).drop old.length)
      else c :: go fuel cs

def join (sep : List Char) : List (List Char) → List Char
  | [] => []
  | [piece] => piece
  | piece :: pieces => piece ++ sep ++ join sep pieces

theorem join_ne_nil {sep piece : List Char} {pieces : List (List Char)} (h : piece ∈ pieces)
    (hne : piece ≠ []) : join sep pieces ≠ [] := by
  match pieces, h with
  | [only], h =>
    rw [List.mem_singleton.mp h] at hne
    exact hne
  | first :: next :: rest, h =>
    show first ++ sep ++ join sep (next :: rest) ≠ []
    rcases List.mem_cons.mp h with rfl | hrest
    · rw [List.append_assoc]
      exact List.append_ne_nil_of_left_ne_nil hne _
    · exact List.append_ne_nil_of_right_ne_nil _ (join_ne_nil hrest hne)

theorem splitOn_ne_nil (sep : Char) (s : List Char) : splitOn sep s ≠ [] := by
  cases s with
  | nil => exact List.cons_ne_nil _ _
  | cons c cs =>
    rw [splitOn]
    split
    · simp
    · split <;> simp

theorem join_splitOn (sep : Char) (s : List Char) : join [sep] (splitOn sep s) = s := by
  induction s with
  | nil => rfl
  | cons c cs ih =>
    rw [splitOn]
    by_cases h : c = sep
    · subst h
      rw [if_pos rfl]
      cases hs : splitOn c cs with
      | nil => exact absurd hs (splitOn_ne_nil c cs)
      | cons p ps => rw [hs] at ih; simp [join, ih]
    · rw [if_neg h]
      cases hs : splitOn sep cs with
      | nil => exact absurd hs (splitOn_ne_nil sep cs)
      | cons p ps =>
        rw [hs] at ih
        cases ps with
        | nil => simp_all [join]
        | cons q qs => simp_all [join]

end TokenIssuer.Text
