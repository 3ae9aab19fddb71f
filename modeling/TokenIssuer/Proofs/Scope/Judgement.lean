import Mathlib.Logic.ExistsUnique
import TokenIssuer.Proofs.Scope
import TokenIssuer.Proofs.Text.Listing
import TokenIssuer.Proofs.Text.Order

/-!
What a registry makes of a scope text, told by the names that stand in the text. Their order and the
blanks between them make no difference.
-/

namespace TokenIssuer.Scope

variable {registry : Registry} {raw other : String} {asked names : List String}

/-! ## The names that stand in a text -/

/-- A name that neither begins nor ends with a blank, with or without blanks around it. -/
def Padded (piece : List Char) (name : String) : Prop :=
  ∃ left right, Text.Blank left ∧ Text.Blank right ∧ piece = left ++ name.toList ++ right ∧
    ∃ h : name.toList ≠ [], Text.isBlank (name.toList.head h) = false ∧
      Text.isBlank (name.toList.getLast h) = false

/-- The names stand in the text in this order: one in each piece between two spaces, but for the
pieces that are blank. -/
def Lists (raw : String) (names : List String) : Prop :=
  Text.Listing ' ' Text.Blank Padded raw.toList names

theorem trim_of_padded {piece : List Char} {name : String} (h : Padded piece name) :
    Text.trim piece = name.toList := by
  obtain ⟨left, right, hl, hr, rfl, hne, hfirst, hlast⟩ := h
  exact Text.dropAround_between left right hl hr hne hfirst hlast

theorem padded_trim {piece : List Char} (h : Text.trim piece ≠ []) :
    Padded piece (String.ofList (Text.trim piece)) := by
  obtain ⟨left, right, hl, hr, hpiece⟩ := Text.exists_dropAround Text.isBlank piece
  unfold Padded
  simp only [String.toList_ofList]
  exact ⟨left, right, hl, hr, hpiece, h, Text.head_dropAround h, Text.getLast_dropAround h⟩

/-- A piece is passed over when nothing is left of it. -/
def isName (piece : List Char) : Bool := !(Text.trim piece).isEmpty

theorem isName_eq_false_iff {piece : List Char} : isName piece = false ↔ Text.Blank piece := by
  unfold isName
  rw [Bool.not_eq_false', List.isEmpty_iff]
  exact Text.dropAround_eq_nil_iff

theorem isName_eq_true_iff {piece : List Char} : isName piece = true ↔ Text.trim piece ≠ [] := by
  unfold isName
  rw [Bool.not_eq_true', List.isEmpty_eq_false_iff]

theorem tokens_eq (raw : String) :
    tokens raw =
      ((Text.splitOn ' ' raw.toList).filter isName).map fun piece =>
        String.ofList (Text.trim piece) := by
  unfold tokens
  rw [List.filter_map, List.map_map]
  rfl

/-- In every text the names stand that are read from it, and no others. -/
theorem lists_iff : Lists raw names ↔ names = tokens raw := by
  rw [tokens_eq]
  constructor
  · intro h
    symm
    apply Text.read_of_listing h
    · intro piece hblank
      exact isName_eq_false_iff.mpr hblank
    · intro piece name hname
      have htrim := trim_of_padded hname
      obtain ⟨-, -, -, -, -, hne, -⟩ := hname
      rw [isName_eq_true_iff, htrim, String.ofList_toList]
      exact ⟨hne, rfl⟩
  · rintro rfl
    exact Text.listing_of_read (fun _ _ hkeep => isName_eq_false_iff.mp hkeep)
      (fun _ _ hkeep => padded_trim (isName_eq_true_iff.mp hkeep))

/-! ## What the registry makes of them -/

/-- The four refusals of a scope text, each for what is first wrong with it. -/
structure Registry.Refuses (registry : Registry) (raw : String) (asked : List String) : Prop where
  empty : registry.parse (some raw) = .error .empty ↔ raw = ""
  blank : registry.parse (some raw) = .error .blank ↔ raw ≠ "" ∧ asked = []
  unknown : registry.parse (some raw) = .error .unknown ↔
    asked ≠ [] ∧ ∃ name ∈ asked, name ∉ registry.names
  duplicate : registry.parse (some raw) = .error .duplicate ↔
    asked ≠ [] ∧ (∀ name ∈ asked, name ∈ registry.names) ∧ ¬ asked.Nodup

/-- A scope text is read exactly when it has names, all of them known and no one twice; what is read
is the set of them. -/
structure Registry.Reads (registry : Registry) (raw : String) (asked : List String) : Prop where
  succeeds : (∃ found, registry.parse (some raw) = .ok found) ↔
    asked ≠ [] ∧ (∀ name ∈ asked, name ∈ registry.names) ∧ asked.Nodup
  members {found : Option (List String)} (read : registry.parse (some raw) = .ok found) :
    ∃ set, found = some set ∧ set.Nodup ∧ (∀ name, name ∈ set ↔ name ∈ asked) ∧
      set.length = asked.length ∧ set ≠ [] ∧ ∀ name ∈ set, name ∈ registry.names

theorem Registry.parse_some_eq_ok_iff {found : Option (List String)} :
    registry.parse (some raw) = .ok found ↔
      ∃ set, registry.parseText raw = .ok set ∧ found = some set := by
  show (registry.parseText raw).map some = .ok found ↔ _
  cases registry.parseText raw <;> simp [Except.map, eq_comm]

theorem Registry.parse_some_eq_error_iff {fault : Fault} :
    registry.parse (some raw) = .error fault ↔ registry.parseText raw = .error fault := by
  show (registry.parseText raw).map some = .error fault ↔ _
  cases registry.parseText raw <;> simp [Except.map]

theorem Registry.reads_tokens (registry : Registry) (raw : String) :
    registry.Reads raw (tokens raw) where
  succeeds := by
    simp only [parse_some_eq_ok_iff, parseText_eq_ok_iff]
    constructor
    · rintro ⟨_, set, ⟨hne, hknown, hnodup, -⟩, -⟩
      exact ⟨hne, fun name hn => of_decide_eq_true (hknown name hn), hnodup⟩
    · rintro ⟨hne, hknown, hnodup⟩
      exact ⟨_, _, ⟨hne, fun name hn => decide_eq_true (hknown name hn), hnodup, rfl⟩, rfl⟩
  members := by
    intro found read
    obtain ⟨set, hset, rfl⟩ := parse_some_eq_ok_iff.mp read
    obtain ⟨hne, hmem⟩ := Registry.of_parseText hset
    obtain ⟨-, hknown, hnodup, rfl⟩ := parseText_eq_ok_iff.mp hset
    exact ⟨_, rfl, Text.nodup_setOf _, hmem, Text.length_setOf hnodup, hne,
      fun name hn => of_decide_eq_true (hknown name ((hmem name).mp hn))⟩

/-- What is looked for first is told first: the whole text, its names, then whether they are known.
-/
theorem Registry.parseText_eq_error_iff {fault : Fault} :
    registry.parseText raw = .error fault ↔
      (raw = "" ∧ fault = .empty) ∨
        (raw ≠ "" ∧ tokens raw = [] ∧ fault = .blank) ∨
        (tokens raw ≠ [] ∧ (∃ name ∈ tokens raw, name ∉ registry.names) ∧ fault = .unknown) ∨
        (tokens raw ≠ [] ∧ (∀ name ∈ tokens raw, name ∈ registry.names) ∧ ¬ (tokens raw).Nodup ∧
          fault = .duplicate) := by
  have hknown : (tokens raw).all registry.knows ↔ ∀ name ∈ tokens raw, name ∈ registry.names := by
    unfold Registry.knows
    simp only [List.all_eq_true, decide_eq_true_eq]
  unfold Registry.parseText
  by_cases hempty : raw = ""
  · subst hempty
    simp [tokens_empty, eq_comm]
  rw [if_neg hempty]
  by_cases hblank : tokens raw = []
  · simp [hblank, hempty, eq_comm]
  rw [if_neg hblank]
  by_cases hall : ∀ name ∈ tokens raw, name ∈ registry.names
  · rw [if_neg (by rw [hknown.mpr hall]; exact Bool.false_ne_true)]
    have hforeign : ¬ ∃ name ∈ tokens raw, name ∉ registry.names := by
      rintro ⟨name, hname, hunknown⟩
      exact hunknown (hall name hname)
    by_cases hnodup : (tokens raw).Nodup
    · simp [hempty, hblank, hforeign, hnodup]
    · simp [hempty, hblank, hforeign, hnodup, iff_true_intro hall, eq_comm]
  · rw [if_pos (by rwa [Bool.not_eq_true', Bool.eq_false_iff, Ne, hknown])]
    have hforeign : ∃ name ∈ tokens raw, name ∉ registry.names := by
      simpa only [Classical.not_forall, exists_prop] using hall
    simp [hempty, hblank, hforeign, hall, eq_comm]

theorem Registry.refuses_tokens (registry : Registry) (raw : String) :
    registry.Refuses raw (tokens raw) := by
  constructor <;> simp only [parse_some_eq_error_iff, parseText_eq_error_iff] <;> simp

/-- Texts in which the same names stand, each as often, are read alike. -/
theorem Registry.parse_of_perm (hraw : Lists raw asked) (hother : Lists other names)
    (same : asked.Perm names) (hne : asked ≠ []) :
    registry.parse (some raw) = registry.parse (some other) := by
  rw [lists_iff] at hraw hother
  subst hraw hother
  have hnonempty {text : String} (h : tokens text ≠ []) : text ≠ "" := by
    rintro rfl
    exact h tokens_empty
  -- Nothing that is asked of the names depends on their order.
  have hset : Text.setOf (tokens raw) = Text.setOf (tokens other) :=
    Text.setOf_congr fun name => same.mem_iff
  have hall : (tokens raw).all registry.knows = (tokens other).all registry.knows := same.all_eq
  have hmore : tokens other ≠ [] := by
    rintro h
    rw [h] at same
    exact hne same.eq_nil
  show (registry.parseText raw).map some = (registry.parseText other).map some
  unfold Registry.parseText
  rw [if_neg (hnonempty hne), if_neg (hnonempty hmore), if_neg hne, if_neg hmore, hall, hset]
  simp only [same.nodup_iff]

/-- In every scope text one list of names stands, and that list decides what a registry makes of the
text: the set of the names, or what is wrong with them. Another text in which the same names stand
in any order gets the same answer. -/
theorem Registry.parse_judges_names (registry : Registry) (raw : String) :
    (∃! asked, Lists raw asked) ∧
      ∀ asked, Lists raw asked →
        registry.Reads raw asked ∧ registry.Refuses raw asked ∧
          ∀ other names, Lists other names → asked.Perm names → asked ≠ [] →
            registry.parse (some other) = registry.parse (some raw) := by
  refine ⟨⟨tokens raw, lists_iff.mpr rfl, fun _ => lists_iff.mp⟩, fun asked hasked => ?_⟩
  have htokens := lists_iff.mp hasked
  refine ⟨?_, ?_, fun other names hnames same hne => (parse_of_perm hasked hnames same hne).symm⟩
  · rw [htokens]
    exact registry.reads_tokens raw
  · rw [htokens]
    exact registry.refuses_tokens raw

theorem Registry.parse_judges_names_demo :
    Lists " read \t write" ["read", "write"] ∧ Lists "write  \u00A0read" ["write", "read"] ∧
      (Registry.ofNames ["write", "read", "admin"]).parse (some " read \t write") =
        .ok (some ["read", "write"]) ∧
      (Registry.ofNames ["write", "read", "admin"]).parse (some "write  \u00A0read") =
        .ok (some ["read", "write"]) := by
  have hraw : Lists " read \t write" ["read", "write"] := lists_iff.mpr (by decide)
  have hother : Lists "write  \u00A0read" ["write", "read"] := lists_iff.mpr (by decide)
  have hread : (Registry.ofNames ["write", "read", "admin"]).parse (some " read \t write") =
      .ok (some ["read", "write"]) := by rfl
  obtain ⟨-, hjudged⟩ :=
    Registry.parse_judges_names (.ofNames ["write", "read", "admin"]) " read \t write"
  obtain ⟨-, -, hsame⟩ := hjudged _ hraw
  refine ⟨hraw, hother, hread, ?_⟩
  rw [hsame _ _ hother (.swap _ _ _) (List.cons_ne_nil _ _), hread]

/-- An unknown name is told before one that comes twice. -/
example : (Registry.ofNames ["read"]).parse (some "read read nope") = .error .unknown := by rfl

end TokenIssuer.Scope
