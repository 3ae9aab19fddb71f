import Mathlib.Algebra.GroupWithZero.Nat
import Mathlib.Data.List.Lex
import Mathlib.Data.String.Basic
import TokenIssuer.Metrics.Exposition

/-! What counting a request does to every counter, and to sums of counters. -/

namespace TokenIssuer

namespace Assoc

variable {κ α : Type}

theorem getD_lookup_put [DecidableEq κ] (name other : κ) (value default : α)
    (entries : List (κ × α)) :
    ((put name value entries).lookup other).getD default =
      if name = other then value else (entries.lookup other).getD default := by
  by_cases h : name = other
  · rw [if_pos h, ← h, lookup_put_self, Option.getD_some]
  · rw [if_neg h, lookup_put_of_ne (Ne.symm h)]

/-- The sum of the numbers under the names that satisfy a condition. -/
def total (p : κ → Bool) (entries : List (κ × Nat)) : Nat :=
  ((entries.filter fun e => p e.1).map (·.2)).sum

theorem total_cons (p : κ → Bool) (e : κ × Nat) (es : List (κ × Nat)) :
    total p (e :: es) = (if p e.1 then e.2 else 0) + total p es := by
  unfold total
  rw [List.filter_cons]
  by_cases h : p e.1 = true
  · rw [if_pos h, if_pos h, List.map_cons, List.sum_cons]
  · rw [if_neg h, if_neg h, Nat.zero_add]

/-- Counting one more under a name adds one to the sums in which the name takes part. -/
theorem total_put_succ [DecidableEq κ] (p : κ → Bool) (name : κ) (entries : List (κ × Nat)) :
    total p (put name ((entries.lookup name).getD 0 + 1) entries) =
      total p entries + if p name then 1 else 0 := by
  -- The induction follows `put`: the entry of the name comes first, or it is further on.
  induction entries with
  | nil => rw [put, total_cons, Nat.add_comm]; rfl
  | cons e es ih =>
    obtain ⟨n, v⟩ := e
    rw [put]
    by_cases h : n = name
    · subst h
      rw [if_pos rfl, total_cons, total_cons, List.lookup_cons_self, Option.getD_some]
      simp only
      split <;> omega
    · have hother : (name == n) = false := beq_false_of_ne (Ne.symm h)
      rw [if_neg h, total_cons, total_cons, List.lookup_cons, hother, ih, Nat.add_assoc]

theorem total_perm (p : κ → Bool) {entries others : List (κ × Nat)} (h : entries.Perm others) :
    total p entries = total p others :=
  List.Perm.sum_nat ((h.filter _).map _)

theorem mem_keys_put [DecidableEq κ] {name other : κ} {value : α} {entries : List (κ × α)} :
    other ∈ (put name value entries).map (·.1) ↔ other = name ∨ other ∈ entries.map (·.1) := by
  induction entries with
  | nil => rw [put, List.map_singleton, List.mem_singleton, List.map_nil]; simp
  | cons e es ih =>
    rw [put]
    by_cases h : e.1 = name
    · rw [if_pos h, List.map_cons, List.map_cons, List.mem_cons, List.mem_cons, h]
      simp
    · rw [if_neg h, List.map_cons, List.map_cons, List.mem_cons, List.mem_cons, ih]
      exact or_left_comm

/-- A name that is new goes to the end; one that is there keeps its place. -/
theorem keys_put [DecidableEq κ] (name : κ) (value : α) (entries : List (κ × α)) :
    (put name value entries).map (·.1) =
      if name ∈ entries.map (·.1) then entries.map (·.1) else entries.map (·.1) ++ [name] := by
  induction entries with
  | nil => rfl
  | cons e es ih =>
    rw [put]
    by_cases h : e.1 = name
    · rw [if_pos h, List.map_cons, List.map_cons, if_pos (by rw [h]; exact List.mem_cons_self), h]
    · have hmem : name ∈ e.1 :: es.map (·.1) ↔ name ∈ es.map (·.1) := by
        rw [List.mem_cons, or_iff_right (Ne.symm h)]
      rw [if_neg h, List.map_cons, List.map_cons, ih, if_congr hmem rfl rfl]
      split <;> rfl

theorem nodup_put [DecidableEq κ] (name : κ) (value : α) {entries : List (κ × α)}
    (h : (entries.map (·.1)).Nodup) : ((put name value entries).map (·.1)).Nodup := by
  induction entries with
  | nil => exact List.pairwise_singleton _ name
  | cons e es ih =>
    rw [List.map_cons, List.nodup_cons] at h
    rw [put]
    by_cases hname : e.1 = name
    · rw [if_pos hname, List.map_cons, List.nodup_cons, ← hname]
      exact h
    · rw [if_neg hname, List.map_cons, List.nodup_cons, mem_keys_put, not_or]
      exact ⟨⟨hname, h.1⟩, ih h.2⟩

end Assoc

namespace Metrics

variable {α : Type}

theorem insertByKey_perm (key : α → List String) (x : α) (xs : List α) :
    (insertByKey key x xs).Perm (x :: xs) := by
  induction xs with
  | nil => exact .refl _
  | cons y ys ih =>
    rw [insertByKey]
    split
    · exact (ih.cons y).trans (.swap x y ys)
    · exact .refl _

theorem sortByKey_perm (key : α → List String) (xs : List α) : (sortByKey key xs).Perm xs := by
  induction xs with
  | nil => exact .refl _
  | cons x xs ih => exact (insertByKey_perm key x _).trans (ih.cons x)

theorem insertByKey_pairwise (key : α → List String) {x : α} {xs : List α}
    (hnew : ∀ y ∈ xs, key y ≠ key x) (h : xs.Pairwise (key · < key ·)) :
    (insertByKey key x xs).Pairwise (key · < key ·) := by
  induction xs with
  | nil => exact List.pairwise_singleton _ x
  | cons y ys ih =>
    obtain ⟨hy, hys⟩ := List.pairwise_cons.mp h
    have hother : key y ≠ key x := hnew y List.mem_cons_self
    rw [insertByKey]
    split
    · next hless =>
      apply List.pairwise_cons.mpr
      refine ⟨?_, ih (fun z hz => hnew z (List.mem_cons_of_mem y hz)) hys⟩
      intro z hz
      rcases List.mem_cons.mp ((insertByKey_perm key x ys).mem_iff.mp hz) with rfl | hz
      · exact hless
      · exact hy z hz
    · next hless =>
      -- The keys differ, so that the one that is not less is greater.
      have hx : key x < key y := lt_of_le_of_ne (not_lt.mp hless) (Ne.symm hother)
      apply List.pairwise_cons.mpr
      refine ⟨?_, h⟩
      intro z hz
      rcases List.mem_cons.mp hz with rfl | hz
      · exact hx
      · exact List.lt_trans hx (hy z hz)

theorem sortByKey_pairwise (key : α → List String) {xs : List α} (h : (xs.map key).Nodup) :
    (sortByKey key xs).Pairwise (key · < key ·) := by
  induction xs with
  | nil => exact .nil
  | cons x xs ih =>
    rw [List.map_cons, List.nodup_cons] at h
    apply insertByKey_pairwise key ?_ (ih h.2)
    intro y hy heq
    have hmem : y ∈ xs := (sortByKey_perm key xs).mem_iff.mp hy
    exact h.1 (heq ▸ List.mem_map_of_mem hmem)

namespace Registry

theorem requestCount_record (r : Registry) (labels other : Traffic) (seconds : Double) :
    (r.record labels seconds).requestCount other =
      r.requestCount other + if labels = other then 1 else 0 := by
  unfold record requestCount
  simp only [Assoc.getD_lookup_put]
  by_cases h : labels = other
  · rw [if_pos h, if_pos h, h]
  · rw [if_neg h, if_neg h, Nat.add_zero]

theorem count_duration_record (r : Registry) (labels other : Traffic) (seconds : Double) :
    ((r.record labels seconds).duration other).count =
      (r.duration other).count + if labels = other then 1 else 0 := by
  unfold record duration
  simp only [Assoc.getD_lookup_put]
  by_cases h : labels = other
  · rw [if_pos h, if_pos h, h]
  · rw [if_neg h, if_neg h, Nat.add_zero]

/-- The label sets that requests are counted under. -/
def labelSets (r : Registry) : List Traffic := r.requests.map (·.1)

/-- Every label set is there once, and is one of requests that were timed as well. -/
structure Orderly (r : Registry) : Prop where
  distinct : r.labelSets.Nodup
  timed : r.durations.map (·.1) = r.labelSets

theorem orderly_empty : Orderly empty := ⟨List.nodup_nil, rfl⟩

theorem Orderly.congr {r other : Registry} (h : r.Orderly) (requests : other.requests = r.requests)
    (durations : other.durations = r.durations) : other.Orderly where
  distinct := by unfold labelSets; rw [requests]; exact h.distinct
  timed := by unfold labelSets; rw [requests, durations]; exact h.timed

theorem mem_labelSets_record {r : Registry} {labels other : Traffic} {seconds : Double} :
    other ∈ (r.record labels seconds).labelSets ↔ other = labels ∨ other ∈ r.labelSets :=
  Assoc.mem_keys_put

theorem Orderly.record {r : Registry} (h : r.Orderly) (labels : Traffic) (seconds : Double) :
    (r.record labels seconds).Orderly where
  distinct := Assoc.nodup_put labels _ h.distinct
  timed := by
    unfold Registry.record labelSets
    rw [Assoc.keys_put, Assoc.keys_put, h.timed]
    rfl

/-- All requests that were counted. -/
def requestTotal (r : Registry) : Nat := Assoc.total (fun _ => true) r.requests

theorem requestTotal_record (r : Registry) (labels : Traffic) (seconds : Double) :
    (r.record labels seconds).requestTotal = r.requestTotal + 1 :=
  Assoc.total_put_succ _ labels r.requests

theorem outcomeCount_recordOutcome (r : Registry) (labels other : Outcome) :
    (r.recordOutcome labels).outcomeCount other =
      r.outcomeCount other + if labels = other then 1 else 0 := by
  unfold recordOutcome outcomeCount
  simp only [Assoc.getD_lookup_put]
  by_cases h : labels = other
  · rw [if_pos h, if_pos h, h]
  · rw [if_neg h, if_neg h, Nat.add_zero]

/-- All token requests that were counted with an outcome. -/
def outcomeTotal (r : Registry) (outcome : String) : Nat :=
  Assoc.total (fun labels => labels.outcome = outcome) r.outcomes

theorem outcomeTotal_recordOutcome (r : Registry) (labels : Outcome) (outcome : String) :
    (r.recordOutcome labels).outcomeTotal outcome =
      r.outcomeTotal outcome + if labels.outcome = outcome then 1 else 0 := by
  unfold outcomeTotal recordOutcome
  rw [outcomeCount, Assoc.total_put_succ]
  simp only [decide_eq_true_eq]

end Registry

end Metrics

end TokenIssuer
