import TokenIssuer.Coverage
import TokenIssuer.Proofs.Result

/-!
What is measured for a package. A file counts towards it by the first characters of its path, so
that a file beside the package counts, too, if its path goes on in the same way. Without such files
nothing but the files of the package decides on its measure, in whatever order a report has them.
-/

namespace TokenIssuer.Coverage

abbrev Files := List (String × Json)

variable {package path name : String} {files other : Files} {found others : List Json}
  {m : Measure}

/-! ## The files of a package -/

/-- The file is the package itself, or lies below it as a directory. -/
def Inside (package path : String) : Prop :=
  slashed path = package.toList ∨ package.toList ++ ['/'] <+: slashed path

instance (package path : String) : Decidable (Inside package path) :=
  inferInstanceAs (Decidable (_ ∨ _))

/-- The file counts towards a package that it is not inside of. -/
def Astray (package path : String) : Prop := belongs package path = true ∧ ¬ Inside package path

instance (package path : String) : Decidable (Astray package path) :=
  inferInstanceAs (Decidable (_ ∧ _))

/-- The files that count towards a package. -/
def counted (package : String) (files : Files) : Files :=
  files.filter fun f => belongs package f.1

/-- The files that are inside of a package. -/
def own (package : String) (files : Files) : Files := files.filter fun f => Inside package f.1

theorem belongs_of_inside (h : Inside package path) : belongs package path = true := by
  unfold belongs
  rw [List.isPrefixOf_iff_prefix]
  rcases h with h | h
  · exact ⟨[], (List.append_nil _).trans h.symm⟩
  · exact (List.prefix_append _ _).trans h

theorem counted_of_no_astray (h : ∀ f ∈ files, ¬ Astray package f.1) :
    counted package files = own package files := by
  apply List.filter_congr
  intro f hf
  rw [Bool.eq_iff_iff, decide_eq_true_eq]
  constructor
  · intro hbelongs
    exact Decidable.byContradiction fun hinside => h f hf ⟨hbelongs, hinside⟩
  · exact belongs_of_inside

theorem counted_own (package : String) (files : Files) :
    counted package (own package files) = own package files := by
  apply List.filter_eq_self.mpr
  intro f hf
  exact belongs_of_inside (of_decide_eq_true (List.mem_filter.mp hf).2)

theorem own_counted (package : String) (files : Files) :
    own package (counted package files) = own package files := by
  unfold own counted
  rw [List.filter_filter]
  apply List.filter_congr
  intro f _
  rw [Bool.and_eq_left_iff_imp]
  intro hinside
  exact belongs_of_inside (of_decide_eq_true hinside)

/-- As many files count as there are inside exactly when none of them is astray. -/
theorem length_counted_eq_iff :
    (counted package files).length = (own package files).length ↔
      ∀ f ∈ files, ¬ Astray package f.1 := by
  constructor
  · intro hlength f hf hastray
    rw [← own_counted] at hlength
    have hall := List.length_filter_eq_length_iff.mp hlength.symm
    have hcounted : f ∈ counted package files := List.mem_filter.mpr ⟨hf, hastray.1⟩
    exact hastray.2 (of_decide_eq_true (hall f hcounted))
  · intro h
    rw [counted_of_no_astray h]

/-! ## The measure -/

/-- The measure for some files with so many statements, of which so many were run. -/
def tally (count : Nat) (statements covered : Int) : Except Fault Measure :=
  if statements = 0 then pure ⟨if count = 0 then whole 0 else whole 100, count⟩
  else do
    let share := (← inRange (.ofInt covered)).mul (whole 100)
    pure ⟨share.div (← inRange (.ofInt statements)), count⟩

theorem files_of_tally {count : Nat} {statements covered : Int}
    (h : tally count statements covered = .ok m) : m.files = count := by
  unfold tally at h
  split at h
  · cases h
    rfl
  · obtain ⟨share, -, h⟩ := bind_eq_ok_iff.mp h
    obtain ⟨divisor, -, h⟩ := bind_eq_ok_iff.mp h
    cases h
    rfl

/-- A package is measured by the summaries of the files that count towards it. -/
theorem measure_eq_ok_iff :
    measure files package = .ok m ↔
      ∃ found, (counted package files).mapM (fun f => get f.2 "summary") = .ok found ∧
        ∃ statements, total "num_statements" found = .ok statements ∧
          ∃ covered, total "covered_lines" found = .ok covered ∧
            tally found.length statements covered = .ok m := by
  unfold measure
  simp only [bind_eq_ok_iff]
  refine exists_congr fun found => and_congr Iff.rfl (exists_congr fun statements =>
    and_congr Iff.rfl (exists_congr fun covered => and_congr Iff.rfl ?_))
  cases found <;> rfl

theorem files_of_measure (h : measure files package = .ok m) :
    m.files = (counted package files).length := by
  obtain ⟨found, hfound, statements, -, covered, -, htally⟩ := measure_eq_ok_iff.mp h
  rw [files_of_tally htally]
  exact length_of_mapM hfound

/-! ## The order of the files -/

theorem total_perm (h : found.Perm others) {n : Int} (hn : total name found = .ok n) :
    total name others = .ok n := by
  obtain ⟨numbers, hnumbers, hsum⟩ := bind_eq_ok_iff.mp hn
  obtain ⟨same, hsame, hperm⟩ := mapM_perm h hnumbers
  cases hsum
  refine bind_eq_ok_iff.mpr ⟨same, hsame, ?_⟩
  have hsum : same.foldl (· + ·) 0 = numbers.foldl (· + ·) 0 :=
    hperm.symm.foldl_eq' (fun x _ y _ z => by omega) 0
  rw [hsum]
  rfl

/-- The files that count may come in any order, and those that do not may be any files. -/
theorem measure_of_perm (h : (counted package files).Perm (counted package other))
    (hm : measure files package = .ok m) : measure other package = .ok m := by
  obtain ⟨found, hfound, statements, hstatements, covered, hcovered, htally⟩ :=
    measure_eq_ok_iff.mp hm
  obtain ⟨others, hothers, hperm⟩ := mapM_perm h hfound
  rw [hperm.length_eq] at htally
  exact measure_eq_ok_iff.mpr ⟨others, hothers, statements, total_perm hperm hstatements, covered,
    total_perm hperm hcovered, htally⟩

theorem toOption_measure_congr (h : (counted package files).Perm (counted package other)) :
    (measure other package).toOption = (measure files package).toOption :=
  toOption_congr fun _ => ⟨measure_of_perm h.symm, measure_of_perm h⟩

/-! ## The verdict -/

/-- The verdict on some floors depends on what is measured for their packages only. -/
theorem toOption_judge_congr {floors : Floors}
    (same : ∀ f ∈ floors, (measure other f.1).toOption = (measure files f.1).toOption) :
    (judge other floors).toOption = (judge files floors).toOption := by
  have hjudge {one another : Files} (v : Verdict)
      (same : ∀ f ∈ floors, (measure one f.1).toOption = (measure another f.1).toOption)
      (h : judge one floors = .ok v) : judge another floors = .ok v := by
    obtain ⟨measured, hmeasured, hv⟩ := bind_eq_ok_iff.mp h
    refine bind_eq_ok_iff.mpr ⟨measured, mapM_congr (fun f hf p hp => ?_) hmeasured, hv⟩
    obtain ⟨m, hm, hp⟩ := bind_eq_ok_iff.mp hp
    exact bind_eq_ok_iff.mpr ⟨m, of_toOption_eq (same f hf) hm, hp⟩
  exact toOption_congr fun v => ⟨hjudge v same, hjudge v fun f hf => (same f hf).symm⟩

/-- The order of a report does not matter for any verdict. Where no file is astray, the measure of a
package and the verdict on it are decided by the files inside of it, whatever the other files are.
They are measured as they would be without the others exactly when no file is astray. -/
theorem package_is_measured_by_its_own_files (files other : Files) (package : String)
    (floor : Double) :
    (files.Perm other →
        ∀ floors, (judge other floors).toOption = (judge files floors).toOption) ∧
      ((∀ f ∈ files ++ other, ¬ Astray package f.1) →
        (own package files).Perm (own package other) →
        (measure other package).toOption = (measure files package).toOption ∧
          (judge other [(package, floor)]).toOption = (judge files [(package, floor)]).toOption) ∧
      ∀ m, measure (own package files) package = .ok m →
        (measure files package = .ok m ↔ ∀ f ∈ files, ¬ Astray package f.1) := by
  refine ⟨fun hperm floors => ?_, fun hastray hown => ?_, fun m hm => ⟨fun h => ?_, fun h => ?_⟩⟩
  · exact toOption_judge_congr fun f _ => toOption_measure_congr (hperm.filter _)
  · obtain ⟨hfiles, hother⟩ := List.forall_mem_append.mp hastray
    rw [← counted_of_no_astray hfiles, ← counted_of_no_astray hother] at hown
    have hmeasure := toOption_measure_congr hown
    refine ⟨hmeasure, toOption_judge_congr fun f hf => ?_⟩
    rw [List.mem_singleton.mp hf]
    exact hmeasure
  · -- Every file that counts is told in the number of files.
    have hcount := (files_of_measure h).symm.trans (files_of_measure hm)
    rw [counted_own] at hcount
    exact length_counted_eq_iff.mp hcount
  · have hcounted : (counted package (own package files)).Perm (counted package files) := by
      rw [counted_own, counted_of_no_astray h]
    exact of_toOption_eq (toOption_measure_congr hcounted).symm hm

/-- What a report tells about a file. -/
def summary (statements covered : Int) : Json :=
  .obj [("summary",
    .obj [("num_statements", .int statements), ("covered_lines", .int covered)])]

/-- A file of a neighbour with a longer name makes up for a package that is below its floor. -/
theorem neighbour_counts_towards_package :
    own "oauth_server/core" [("oauth_server/core/scopes.py", summary 10 5),
          ("oauth_server/core_extra/a.py", summary 990 990)] =
        [("oauth_server/core/scopes.py", summary 10 5)] ∧
      (judge [("oauth_server/core/scopes.py", summary 10 5)]
          [("oauth_server/core", whole 95)]).toOption =
        some ⟨1, "[FAIL] oauth_server/core: 50.00% over 1 file(s), floor 95.00%\n"⟩ ∧
      (judge [("oauth_server/core/scopes.py", summary 10 5),
          ("oauth_server/core_extra/a.py", summary 990 990)]
          [("oauth_server/core", whole 95)]).toOption =
        some ⟨0, "[ok] oauth_server/core: 99.50% over 2 file(s), floor 95.00%\n"⟩ :=
  ⟨by rfl, by decide +kernel, by decide +kernel⟩

end TokenIssuer.Coverage
