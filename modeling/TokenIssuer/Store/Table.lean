/-!
A table of rows, each with a key of its own. Rows stay in the order in which their keys first came;
a row that replaces another takes its place.
-/

namespace TokenIssuer.Store

variable {κ α : Type} [DecidableEq κ]

/-- Puts a row in the place of the row with the same key, or at the end. -/
def putRow (key : α → κ) (row : α) : List α → List α
  | [] => [row]
  | r :: rs => if key r = key row then row :: rs else r :: putRow key row rs

theorem mem_keys_putRow (key : α → κ) (row : α) (k : κ) (rs : List α) :
    k ∈ (putRow key row rs).map key ↔ k = key row ∨ k ∈ rs.map key := by
  induction rs with
  | nil => simp [putRow]
  | cons r rs ih =>
    rw [putRow]
    by_cases h : key r = key row
    · simp [h]
    · rw [if_neg h]
      simp only [List.map_cons, List.mem_cons, ih]
      exact or_left_comm

theorem nodup_putRow (key : α → κ) (row : α) {rs : List α} (h : (rs.map key).Nodup) :
    ((putRow key row rs).map key).Nodup := by
  induction rs with
  | nil => simp [putRow]
  | cons r rs ih =>
    rw [List.map_cons, List.nodup_cons] at h
    rw [putRow]
    by_cases hk : key r = key row
    · rw [if_pos hk, List.map_cons, List.nodup_cons, ← hk]; exact h
    · rw [if_neg hk, List.map_cons, List.nodup_cons, mem_keys_putRow]
      exact ⟨fun hm => hm.elim hk h.1, ih h.2⟩

/-- A table whose rows are told apart by `key`. -/
structure Table (key : α → κ) where
  rows : List α
  distinct : (rows.map key).Nodup

namespace Table

variable {key : α → κ}

def empty : Table key := ⟨[], List.nodup_nil⟩

instance : Inhabited (Table key) := ⟨empty⟩

def get? (t : Table key) (k : κ) : Option α := t.rows.find? fun r => key r = k

def put (t : Table key) (row : α) : Table key :=
  ⟨putRow key row t.rows, nodup_putRow key row t.distinct⟩

def select (t : Table key) (p : α → Bool) : List α := t.rows.filter p

def erase (t : Table key) (k : κ) : Table key :=
  ⟨t.rows.filter fun r => key r ≠ k,
    t.distinct.sublist (List.Sublist.map key (List.filter_sublist))⟩

def has (t : Table key) (k : κ) : Bool := (t.get? k).isSome

/-- Whether there is a row to delete, and the table without it. -/
def delete (t : Table key) (k : κ) : Bool × Table key := (t.has k, t.erase k)

/-- The table of the rows, put one after the other. -/
def ofRows (rows : List α) : Table key := rows.foldl put empty

end Table

end TokenIssuer.Store
