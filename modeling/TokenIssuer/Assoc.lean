/-!
Lists of named entries in which a name keeps the place where it was first put.
-/

namespace TokenIssuer.Assoc

variable {κ α : Type} [DecidableEq κ]

/-- Puts an entry in the place of the one of that name, or at the end. -/
def put (name : κ) (value : α) : List (κ × α) → List (κ × α)
  | [] => [(name, value)]
  | (n, v) :: rest => if n = name then (name, value) :: rest else (n, v) :: put name value rest

def putAll (entries : List (κ × α)) (into : List (κ × α)) : List (κ × α) :=
  entries.foldl (fun acc e => put e.1 e.2 acc) into

/-- Puts an entry at the end unless there is one of that name. -/
def putNew (name : κ) (value : α) (entries : List (κ × α)) : List (κ × α) :=
  if (entries.lookup name).isSome then entries else entries ++ [(name, value)]

def erase (name : κ) (entries : List (κ × α)) : List (κ × α) := entries.filter (·.1 ≠ name)

@[simp] theorem lookup_put_self (name : κ) (value : α) (entries : List (κ × α)) :
    (put name value entries).lookup name = some value := by
  induction entries with
  | nil => simp [put]
  | cons e es ih =>
    obtain ⟨n, v⟩ := e
    rw [put]
    by_cases h : n = name
    · simp [h]
    · have hn : (name == n) = false := by simpa using fun e => h e.symm
      simp [h, List.lookup_cons, hn, ih]

theorem lookup_put_of_ne {name other : κ} (h : other ≠ name) (value : α)
    (entries : List (κ × α)) : (put name value entries).lookup other = entries.lookup other := by
  have ho : (other == name) = false := by simpa using h
  induction entries with
  | nil => simp [put, List.lookup_cons, ho]
  | cons e es ih =>
    obtain ⟨n, v⟩ := e
    rw [put]
    by_cases hn : n = name
    · subst hn; simp [List.lookup_cons, ho]
    · simp [hn, List.lookup_cons, ih]

@[simp] theorem erase_put (name : κ) (value : α) (entries : List (κ × α)) :
    erase name (put name value entries) = erase name entries := by
  unfold erase
  induction entries with
  | nil => simp [put]
  | cons e es ih =>
    obtain ⟨n, v⟩ := e
    rw [put]
    by_cases hn : n = name
    · simp [hn]
    · rw [if_neg hn, List.filter_cons, List.filter_cons, ih]

@[simp] theorem lookup_erase_self (name : κ) (entries : List (κ × α)) :
    (erase name entries).lookup name = none := by
  unfold erase
  rw [List.lookup_eq_none_iff]
  intro e he
  have hother := of_decide_eq_true (List.mem_filter.mp he).2
  exact bne_iff_ne.mpr (Ne.symm hother)

theorem lookup_erase_of_ne {name other : κ} (h : other ≠ name) (entries : List (κ × α)) :
    (erase name entries).lookup other = entries.lookup other := by
  unfold erase
  induction entries with
  | nil => rfl
  | cons e es ih =>
    obtain ⟨n, v⟩ := e
    by_cases hn : n = name
    · have ho : (other == n) = false := by rw [hn]; simpa using h
      rw [List.filter_cons_of_neg (by simpa using hn), List.lookup_cons, ho]
      exact ih
    · rw [List.filter_cons_of_pos (by simpa using hn), List.lookup_cons, List.lookup_cons, ih]

theorem erase_eq_self {name : κ} {entries : List (κ × α)} (h : entries.lookup name = none) :
    erase name entries = entries := by
  unfold erase
  rw [List.filter_eq_self]
  intro e he
  have hother := List.lookup_eq_none_iff.mp h e he
  exact decide_eq_true (Ne.symm (bne_iff_ne.mp hother))

end TokenIssuer.Assoc
