import TokenIssuer.Proofs.Result
import TokenIssuer.Proofs.Scope.Format
import TokenIssuer.Settings.Schema

/-!
The scopes that settings accept. They check the names on their own, without the reader of scope
texts; what they let through is what that reader can find in a text.
-/

namespace TokenIssuer.Settings

variable {name : String} {value : Json} {scopes : List Phrase}

theorem isScopeName_plain_iff : isScopeName (.plain name) = true ↔ Scope.Nameable name := by
  rw [Scope.nameable_iff]
  unfold isScopeName
  show (!name.toList.isEmpty && Text.trim name.toList == name.toList &&
    !name.toList.contains ' ') = true ↔ _
  simp only [Bool.and_eq_true, Bool.not_eq_true', beq_iff_eq, and_assoc, ← Bool.not_eq_true,
    List.isEmpty_iff, List.contains_iff_mem]

/-- Scopes are accepted when there is one and all of them can stand in a scope text. -/
theorem readScopes_eq_ok_iff :
    readScopes value = .ok scopes ↔
      readTexts value = .ok scopes ∧ scopes ≠ [] ∧ ∀ scope ∈ scopes, isScopeName scope = true := by
  unfold readScopes
  cases readTexts value with
  | error problems => simp
  | ok found =>
    simp only [Except.ok.injEq]
    by_cases hnone : found = []
    · subst hnone
      simp only [List.isEmpty_nil, if_true]
      exact iff_of_false (fun h => nomatch h) fun h => h.2.1 h.1.symm
    rw [if_neg (by rwa [List.isEmpty_iff])]
    -- The first name that cannot stand in a text is told, if there is one.
    cases hfirst : found.find? fun scope => !isScopeName scope with
    | some scope =>
      have hbad := List.find?_some hfirst
      rw [Bool.not_eq_true'] at hbad
      refine iff_of_false (fun h => nomatch h) ?_
      rintro ⟨rfl, -, hall⟩
      rw [hall scope (List.mem_of_find?_eq_some hfirst)] at hbad
      cases hbad
    | none =>
      have hall : ∀ scope ∈ found, isScopeName scope = true := by
        simpa using List.find?_eq_none.mp hfirst
      show Except.ok found = Except.ok scopes ↔ _
      rw [Except.ok.injEq]
      constructor
      · rintro rfl
        exact ⟨rfl, hnone, hall⟩
      · exact fun h => h.1

theorem readTexts_ofTexts (names : List String) :
    readTexts (.ofTexts names) = .ok (names.map .plain) := by
  have hall (index : Nat) :
      Checked.all readText index (names.map .str) = .ok (names.map .plain) := by
    induction names generalizing index with
    | nil => rfl
    | cons name names ih =>
      rw [List.map_cons, Checked.all, ih]
      rfl
  exact hall 0

theorem nameable_of_readScopes (h : readScopes value = .ok scopes) (mem : .plain name ∈ scopes) :
    Scope.Nameable name :=
  isScopeName_plain_iff.mp ((readScopes_eq_ok_iff.mp h).2.2 _ mem)

/-- The reading of a section in which the known scopes are the names. -/
def acceptScopes (names : List String) : Checked (List Phrase) :=
  readScopeSection (.obj [("valid_scopes", .ofTexts names)])

theorem acceptScopes_eq_ok_iff {names : List String} :
    acceptScopes names = .ok scopes ↔
      scopes = names.map .plain ∧ names ≠ [] ∧ ∀ name ∈ names, Scope.Nameable name := by
  have hread : acceptScopes names = .ok scopes ↔ readScopes (.ofTexts names) = .ok scopes :=
    mapError_eq_ok_iff
  rw [hread, readScopes_eq_ok_iff, readTexts_ofTexts, Except.ok.injEq]
  constructor
  · rintro ⟨rfl, hne, hall⟩
    rw [List.forall_mem_map] at hall
    rw [Ne, List.map_eq_nil_iff] at hne
    exact ⟨rfl, hne, fun name hname => isScopeName_plain_iff.mp (hall name hname)⟩
  · rintro ⟨rfl, hne, hall⟩
    rw [List.forall_mem_map, Ne, List.map_eq_nil_iff]
    exact ⟨rfl, hne, fun name hname => isScopeName_plain_iff.mpr (hall name hname)⟩

/-- A name that can be asked for is read on its own where it is known. -/
theorem parse_of_nameable {registry : Scope.Registry} (h : Scope.Nameable name)
    (known : name ∈ registry.names) : registry.parse (some name) = .ok (some [name]) := by
  rw [Scope.Registry.parse_some_eq_ok_iff]
  refine ⟨[name], Scope.Registry.parseText_eq_ok_iff.mpr ?_, rfl⟩
  rw [Scope.tokens_of_nameable h]
  exact ⟨List.cons_ne_nil _ _, List.forall_mem_singleton.mpr (decide_eq_true known),
    List.nodup_cons.mpr ⟨List.not_mem_nil, List.nodup_nil⟩, rfl⟩

/-- A list of names is accepted as the known scopes, and then as it stands, exactly when there is a
name in it and each of them can be asked for in some text; and then each can be asked for in the
text that is nothing but the name. This leaves out names with half of a surrogate pair, which can be
accepted as well but stand in no text. -/
theorem accepted_scopes_are_requestable (names : List String) :
    ((∃ scopes, acceptScopes names = .ok scopes) ↔
        names ≠ [] ∧ ∀ name ∈ names, ∃ raw set,
          (Scope.Registry.ofNames names).parse (some raw) = .ok (some set) ∧ name ∈ set) ∧
      ∀ scopes, acceptScopes names = .ok scopes →
        scopes = names.map .plain ∧
          ∀ name ∈ names,
            (Scope.Registry.ofNames names).parse (some name) = .ok (some [name]) := by
  have hknown {name : String} (h : name ∈ names) : name ∈ (Scope.Registry.ofNames names).names :=
    (Text.mem_setOf name names).mpr h
  refine ⟨⟨?_, ?_⟩, ?_⟩
  · rintro ⟨scopes, h⟩
    obtain ⟨-, hne, hall⟩ := acceptScopes_eq_ok_iff.mp h
    refine ⟨hne, fun name hname => ⟨name, [name], ?_, List.mem_singleton_self name⟩⟩
    exact parse_of_nameable (hall name hname) (hknown hname)
  · rintro ⟨hne, hall⟩
    refine ⟨_, acceptScopes_eq_ok_iff.mpr ⟨rfl, hne, fun name hname => ?_⟩⟩
    -- A name that was read stood in the text as one that can be asked for.
    obtain ⟨raw, set, hparse, hmem⟩ := hall name hname
    obtain ⟨rfl, -, -, -⟩ := Scope.Registry.eq_setOf_of_parse hparse
    exact Scope.nameable_of_mem_tokens ((Text.mem_setOf name _).mp hmem)
  · intro scopes h
    obtain ⟨hscopes, -, hall⟩ := acceptScopes_eq_ok_iff.mp h
    exact ⟨hscopes, fun name hname => parse_of_nameable (hall name hname) (hknown hname)⟩

/-- A tab may stand inside a name, and an invisible character anywhere. -/
theorem accepted_scopes_are_requestable_demo :
    acceptScopes ["read\tall", "\u200Bwrite"] =
        .ok [.plain "read\tall", .plain "\u200Bwrite"] ∧
      (Scope.Registry.ofNames ["read\tall", "\u200Bwrite"]).parse (some "read\tall") =
        .ok (some ["read\tall"]) := by
  have haccepted : acceptScopes ["read\tall", "\u200Bwrite"] =
      .ok [.plain "read\tall", .plain "\u200Bwrite"] := by rfl
  obtain ⟨-, hnames⟩ := (accepted_scopes_are_requestable ["read\tall", "\u200Bwrite"]).2 _ haccepted
  exact ⟨haccepted, hnames "read\tall" List.mem_cons_self⟩

/-- A blank at the end of a name keeps the list from being accepted. -/
example : acceptScopes ["read", "write\u00A0"] =
    .error [⟨[.field "valid_scopes"], .scopeName (.plain "write\u00A0")⟩] := by rfl

end TokenIssuer.Settings
