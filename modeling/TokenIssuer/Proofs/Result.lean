import Mathlib.Data.List.Forall2

/-! Computations that end with a result or a fault. -/

namespace TokenIssuer

variable {ε δ α β : Type}

/-- Two steps have a result when the first has one and the second has one from there. -/
theorem bind_eq_ok_iff {x : Except ε α} {f : α → Except ε β} {b : β} :
    (x >>= f) = .ok b ↔ ∃ a, x = .ok a ∧ f a = .ok b := by
  cases x with
  | error fault =>
    constructor
    · intro h; exact absurd h (by simp [bind, Except.bind])
    · rintro ⟨a, ha, -⟩; exact absurd ha (by simp)
  | ok a =>
    constructor
    · intro h; exact ⟨a, rfl, h⟩
    · rintro ⟨a', ha, h⟩; cases ha; exact h

/-- Two steps end with a fault when the first does, or the second does from the result of the
first. -/
theorem bind_eq_error_iff {x : Except ε α} {f : α → Except ε β} {e : ε} :
    (x >>= f) = .error e ↔ x = .error e ∨ ∃ a, x = .ok a ∧ f a = .error e := by
  cases x with
  | error fault =>
    have hbind : (Except.error fault >>= f) = .error fault := rfl
    simp [hbind]
  | ok a =>
    have hbind : (Except.ok a >>= f) = f a := rfl
    simp [hbind]

theorem mapError_eq_ok_iff {x : Except ε α} {f : ε → δ} {a : α} :
    x.mapError f = .ok a ↔ x = .ok a := by
  constructor
  · intro h
    cases x with
    | error fault => cases h
    | ok b => cases h; rfl
  · rintro rfl
    rfl

/-- Computations with the same results tell the same, whatever the faults are they end with. -/
theorem toOption_congr {x : Except ε α} {y : Except δ α} (h : ∀ a, x = .ok a ↔ y = .ok a) :
    x.toOption = y.toOption := by
  cases x with
  | ok a =>
    rw [(h a).mp rfl]
    rfl
  | error fault =>
    cases y with
    | ok a => exact absurd ((h a).mpr rfl) (by simp)
    | error other => rfl

theorem of_toOption_eq {x : Except ε α} {y : Except δ α} (h : x.toOption = y.toOption) {a : α}
    (hx : x = .ok a) : y = .ok a := by
  subst hx
  cases y with
  | ok b => exact congrArg Except.ok (Option.some.inj h).symm
  | error fault => cases h

theorem mapM_cons_eq_ok_iff {x : α} {xs : List α} {ys : List β} {f : α → Except ε β} :
    (x :: xs).mapM f = .ok ys ↔
      ∃ first, f x = .ok first ∧ ∃ rest, xs.mapM f = .ok rest ∧ ys = first :: rest := by
  rw [List.mapM_cons]
  simp only [bind_eq_ok_iff]
  refine exists_congr fun first => and_congr Iff.rfl (exists_congr fun rest =>
    and_congr Iff.rfl ?_)
  exact ⟨fun h => by cases h; rfl, fun h => h ▸ rfl⟩

theorem length_of_mapM {xs : List α} {ys : List β} {f : α → Except ε β}
    (h : xs.mapM f = .ok ys) : ys.length = xs.length := by
  induction xs generalizing ys with
  | nil =>
    cases h
    rfl
  | cons x xs ih =>
    obtain ⟨first, -, rest, hrest, rfl⟩ := mapM_cons_eq_ok_iff.mp h
    rw [List.length_cons, List.length_cons, ih hrest]

/-- A traversal has the results of another one whose steps all have theirs. -/
theorem mapM_congr {xs : List α} {ys : List β} {f : α → Except ε β} {g : α → Except δ β}
    (same : ∀ x ∈ xs, ∀ y, f x = .ok y → g x = .ok y) (h : xs.mapM f = .ok ys) :
    xs.mapM g = .ok ys := by
  induction xs generalizing ys with
  | nil =>
    cases h
    rfl
  | cons x xs ih =>
    obtain ⟨first, hfirst, rest, hrest, rfl⟩ := mapM_cons_eq_ok_iff.mp h
    exact mapM_cons_eq_ok_iff.mpr ⟨first, same x List.mem_cons_self first hfirst, rest,
      ih (fun z hz => same z (List.mem_cons_of_mem x hz)) hrest, rfl⟩

/-- In another order a traversal has the same results, in another order. Which fault comes first may
change. -/
theorem mapM_perm {xs zs : List α} {ys : List β} {f : α → Except ε β} (h : xs.Perm zs)
    (hys : xs.mapM f = .ok ys) : ∃ others, zs.mapM f = .ok others ∧ ys.Perm others := by
  -- Only a traversal that succeeds keeps its results: which step fails first may change.
  induction h generalizing ys with
  | nil => exact ⟨ys, hys, .refl ys⟩
  | cons x _ ih =>
    obtain ⟨first, hfirst, rest, hrest, rfl⟩ := mapM_cons_eq_ok_iff.mp hys
    obtain ⟨others, hothers, hperm⟩ := ih hrest
    exact ⟨first :: others, mapM_cons_eq_ok_iff.mpr ⟨first, hfirst, others, hothers, rfl⟩,
      hperm.cons first⟩
  | swap x z _ =>
    obtain ⟨first, hfirst, _, htail, rfl⟩ := mapM_cons_eq_ok_iff.mp hys
    obtain ⟨second, hsecond, rest, hrest, rfl⟩ := mapM_cons_eq_ok_iff.mp htail
    refine ⟨second :: first :: rest, ?_, .swap second first rest⟩
    exact mapM_cons_eq_ok_iff.mpr ⟨second, hsecond, first :: rest,
      mapM_cons_eq_ok_iff.mpr ⟨first, hfirst, rest, hrest, rfl⟩, rfl⟩
  | trans _ _ ih also =>
    obtain ⟨others, hothers, hperm⟩ := ih hys
    obtain ⟨last, hlast, hagain⟩ := also hothers
    exact ⟨last, hlast, hperm.trans hagain⟩

/-- Each result of a traversal is that of one of its steps. -/
theorem of_mem_mapM {xs : List α} {ys : List β} {f : α → Except ε β} (h : xs.mapM f = .ok ys) :
    ∀ y ∈ ys, ∃ x ∈ xs, f x = .ok y := by
  induction xs generalizing ys with
  | nil =>
    cases h
    exact List.forall_mem_nil _
  | cons x xs ih =>
    rw [List.mapM_cons] at h
    obtain ⟨first, hfirst, h⟩ := bind_eq_ok_iff.mp h
    obtain ⟨rest, hrest, h⟩ := bind_eq_ok_iff.mp h
    cases h
    intro y hy
    rcases List.mem_cons.mp hy with rfl | hy
    · exact ⟨x, List.mem_cons_self, hfirst⟩
    · obtain ⟨z, hz, hfz⟩ := ih hrest y hy
      exact ⟨z, List.mem_cons_of_mem x hz, hfz⟩

/-- A traversal whose steps may find nothing finds in each place what the step finds there. -/
theorem mapM_eq_some_iff {xs : List α} {ys : List β} {f : α → Option β} :
    xs.mapM f = some ys ↔ List.Forall₂ (fun x y => f x = some y) xs ys := by
  induction xs generalizing ys with
  | nil =>
    constructor
    · intro h
      cases h
      exact .nil
    · rintro ⟨⟩
      rfl
  | cons x xs ih =>
    rw [List.mapM_cons]
    simp only [Option.bind_eq_bind, Option.bind_eq_some_iff, ih]
    constructor
    · rintro ⟨first, hfirst, rest, hrest, h⟩
      cases h
      exact .cons hfirst hrest
    · rintro (_ | ⟨hfirst, hrest⟩)
      exact ⟨_, hfirst, _, hrest, rfl⟩

end TokenIssuer
