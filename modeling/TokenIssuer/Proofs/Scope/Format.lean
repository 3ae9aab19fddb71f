import TokenIssuer.Proofs.Scope.Judgement

/-!
How sets of scopes are written. Names that can be asked for stand in a text side by side with one
space between them, and are read from it again; a text that is read is written anew in one way only,
whatever its blanks and the order of its names were.
-/

namespace TokenIssuer.Scope

variable {registry : Registry} {raw name : String} {names members : List String}

/-! ## Names that can be asked for -/

/-- There is no space in the name, and it neither begins nor ends with a blank. Other blanks may
stand inside it. -/
structure Nameable (name : String) : Prop where
  spaceless : ' ' ∉ name.toList
  bounded : ∃ h : name.toList ≠ [], Text.isBlank (name.toList.head h) = false ∧
    Text.isBlank (name.toList.getLast h) = false

theorem nameable_iff :
    Nameable name ↔
      name.toList ≠ [] ∧ Text.trim name.toList = name.toList ∧ ' ' ∉ name.toList := by
  constructor
  · rintro ⟨hspace, hne, hbounds⟩
    exact ⟨hne, (Text.dropAround_eq_self_iff hne).mpr hbounds, hspace⟩
  · rintro ⟨hne, htrim, hspace⟩
    exact ⟨hspace, hne, (Text.dropAround_eq_self_iff hne).mp htrim⟩

theorem Nameable.padded (h : Nameable name) : Padded name.toList name :=
  ⟨[], [], List.forall_mem_nil _, List.forall_mem_nil _, (List.append_nil _).symm, h.bounded⟩

/-- Every name that is read from a text can be asked for. -/
theorem nameable_of_mem_tokens (h : name ∈ tokens raw) : Nameable name := by
  rw [tokens_eq] at h
  obtain ⟨piece, hpiece, rfl⟩ := List.mem_map.mp h
  obtain ⟨hsplit, hname⟩ := List.mem_filter.mp hpiece
  have hne := isName_eq_true_iff.mp hname
  rw [nameable_iff, String.toList_ofList]
  refine ⟨hne, ?_, ?_⟩
  · -- What is left of a piece has no blanks at its ends any more.
    exact (Text.dropAround_eq_self_iff hne).mpr
      ⟨Text.head_dropAround hne, Text.getLast_dropAround hne⟩
  · intro hspace
    exact Text.notMem_of_mem_splitOn hsplit (Text.mem_of_mem_trim hspace)

/-! ## Names side by side -/

/-- The names with one space between two of them. -/
def spaced (names : List String) : String :=
  String.ofList ([' '].intercalate (names.map String.toList))

theorem format_eq_spaced (h : names.Nodup) : format names = spaced (Text.setOf names) := by
  unfold format spaced
  rw [Text.sortTexts_eq_setOf h, Text.join_eq_intercalate]

theorem lists_spaced (hne : names ≠ []) (h : ∀ name ∈ names, Nameable name) :
    Lists (spaced names) names := by
  have hpieces (names : List String) (h : ∀ name ∈ names, Nameable name) :
      Text.Lists Text.Blank Padded (names.map String.toList) names := by
    induction names with
    | nil => exact .nil
    | cons name names ih =>
      obtain ⟨hname, hnames⟩ := List.forall_mem_cons.mp h
      exact .item hname.padded (ih hnames)
  refine ⟨names.map String.toList, ?_, ?_, ?_, hpieces names h⟩
  · rwa [Ne, List.map_eq_nil_iff]
  · rw [List.forall_mem_map]
    exact fun name hname => (h name hname).spaceless
  · rw [Text.join_eq_intercalate]
    exact String.toList_ofList

theorem tokens_spaced (hne : names ≠ []) (h : ∀ name ∈ names, Nameable name) :
    tokens (spaced names) = names :=
  (lists_iff.mp (lists_spaced hne h)).symm

theorem tokens_of_nameable (h : Nameable name) : tokens name = [name] := by
  have hsingle : spaced [name] = name := by
    show String.ofList ([' '].intercalate [name.toList]) = name
    rw [List.intercalate_singleton, String.ofList_toList]
  have htokens := tokens_spaced (List.cons_ne_nil name []) (List.forall_mem_singleton.mpr h)
  rwa [hsingle] at htokens

/-! ## Sets that are written -/

/-- The text writes the set: its names in the order of their code points, with a single space
between two of them and none around. -/
structure Canonical (text : String) (set : List String) : Prop where
  spelled : text = spaced set
  ordered : set.Pairwise (· < ·)
  filled : set ≠ []
  named : ∀ name ∈ set, Nameable name

theorem Canonical.tokens_eq {text : String} (h : Canonical text names) : tokens text = names := by
  rw [h.spelled]
  exact tokens_spaced h.filled h.named

/-- A set has one text only, and a text writes one set only. -/
theorem Canonical.eq_iff {text other : String} {set more : List String} (h : Canonical text set)
    (ho : Canonical other more) : other = text ↔ set = more := by
  constructor
  · rintro rfl
    rw [← h.tokens_eq, ho.tokens_eq]
  · rintro rfl
    rw [h.spelled, ho.spelled]

theorem setOf_ne_nil (hne : names ≠ []) : Text.setOf names ≠ [] := by
  obtain ⟨name, hname⟩ := List.exists_mem_of_ne_nil _ hne
  exact List.ne_nil_of_mem ((Text.mem_setOf name names).mpr hname)

/-- In whatever order the members are given, they are written in the canonical one. -/
theorem canonical_format (hne : members ≠ []) (hnodup : members.Nodup)
    (h : ∀ name ∈ members, Nameable name) : Canonical (format members) (Text.setOf members) where
  spelled := format_eq_spaced hnodup
  ordered := Text.strict_setOf members
  filled := setOf_ne_nil hne
  named := fun name hname => h name ((Text.mem_setOf name members).mp hname)

/-- What is written of known scopes is read as the set of them. -/
theorem Registry.parse_format (hne : members ≠ []) (hnodup : members.Nodup)
    (h : ∀ name ∈ members, Nameable name) (known : ∀ name ∈ members, name ∈ registry.names) :
    registry.parse (some (format members)) = .ok (some (Text.setOf members)) := by
  have hcanonical := canonical_format hne hnodup h
  rw [Registry.parse_some_eq_ok_iff]
  refine ⟨_, Registry.parseText_eq_ok_iff.mpr ?_, rfl⟩
  rw [hcanonical.tokens_eq]
  refine ⟨hcanonical.filled, fun name hname => ?_, Text.nodup_setOf members, ?_⟩
  · exact decide_eq_true (known name ((Text.mem_setOf name members).mp hname))
  · exact (Text.setOf_of_strict hcanonical.ordered).symm

section

variable {set : List String} (read : registry.parse (some raw) = .ok (some set))

include read

theorem Registry.eq_setOf_of_parse :
    set = Text.setOf (tokens raw) ∧ tokens raw ≠ [] ∧ (tokens raw).Nodup ∧
      ∀ name ∈ tokens raw, name ∈ registry.names := by
  obtain ⟨found, hfound, he⟩ := Registry.parse_some_eq_ok_iff.mp read
  obtain ⟨hne, hknown, hnodup, rfl⟩ := Registry.parseText_eq_ok_iff.mp hfound
  exact ⟨Option.some.inj he, hne, hnodup, fun name hname => of_decide_eq_true (hknown name hname)⟩

theorem Registry.canonical_of_parse : Canonical (format set) set := by
  obtain ⟨rfl, hne, hnodup, -⟩ := Registry.eq_setOf_of_parse read
  have hcanonical := canonical_format (setOf_ne_nil hne) (Text.nodup_setOf (tokens raw))
    fun name hname => nameable_of_mem_tokens ((Text.mem_setOf name _).mp hname)
  rwa [Text.setOf_of_strict (Text.strict_setOf (tokens raw))] at hcanonical

/-- Writing a text that was read, and reading it again, changes nothing more. -/
theorem Registry.parse_format_of_parse :
    registry.parse (some (format set)) = .ok (some set) := by
  have hcanonical := Registry.canonical_of_parse read
  obtain ⟨he, -, -, hknown⟩ := Registry.eq_setOf_of_parse read
  have hnames : ∀ name ∈ set, name ∈ registry.names := by
    intro name hname
    rw [he, Text.mem_setOf] at hname
    exact hknown name hname
  have hparse := Registry.parse_format hcanonical.filled
    (Text.nodup_of_strict hcanonical.ordered) hcanonical.named hnames
  rwa [Text.setOf_of_strict hcanonical.ordered] at hparse

end

end TokenIssuer.Scope
