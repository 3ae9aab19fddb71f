import TokenIssuer.Proofs.Json
import TokenIssuer.Settings.Sources

/-!
What is known of settings once they are accepted: what the reading of each value checks, and that
texts from any source keep their form on the way.
-/

namespace TokenIssuer.Settings

/-! ## What the sources give -/

open Json

mutual

theorem proper_overlay {base : Json} (under : base.Proper) :
    ∀ upper : Json, upper.Proper → (overlay base upper).Proper
  | .null, _ => by rw [overlay]; exact .null; nofun
  | .bool b, _ => by rw [overlay]; exact .bool b; nofun
  | .int n, _ => by rw [overlay]; exact .int n; nofun
  | .float x, _ => by rw [overlay]; exact .float x; nofun
  | .str s, _ => by rw [overlay]; exact .str s; nofun
  | .torn cs, h => by rw [overlay]; exact h; nofun
  | .arr vs, h => by rw [overlay]; exact h; nofun
  | .obj fields, h => by
    cases under with
    | obj each => rw [overlay]; exact .obj (proper_overlayFields each fields h.fields)
    | _ => rw [overlay]; exact h; nofun

theorem proper_overlayFields {under : List (String × Json)} (hunder : ∀ f ∈ under, f.2.Proper) :
    ∀ upper : List (String × Json), (∀ f ∈ upper, f.2.Proper) →
      ∀ f ∈ overlayFields under upper, f.2.Proper
  | [], _ => by rw [overlayFields]; exact hunder
  | (name, value) :: rest, h => by
    obtain ⟨hvalue, hrest⟩ := List.forall_mem_cons.mp h
    rw [overlayFields]
    apply proper_overlayFields (proper_put hunder name ?_) rest hrest
    cases hbase : under.lookup name with
    | none => exact hvalue
    | some base => exact proper_overlay (proper_lookup hunder hbase) value hvalue

end

theorem proper_assign (last : String) {value : Json} (hvalue : value.Proper)
    (way : List String) {found : Json} (hfound : found.Proper) :
    (assign last value way found).Proper := by
  induction way generalizing found with
  | nil =>
    cases hfound with
    | obj each => exact .obj (proper_put each last hvalue)
    | torn halves => exact .torn halves
    | arr each => exact .arr each
    | _ => constructor
  | cons key keys ih =>
    cases hfound with
    | obj each =>
      refine .obj (proper_put each key (ih ?_))
      cases hbase : List.lookup key _ with
      | none => exact .obj (List.forall_mem_nil _)
      | some base => exact proper_lookup each hbase
    | torn halves => exact .torn halves
    | arr each => exact .arr each
    | _ => constructor

theorem proper_foldFields (names : List String) {value : Json} (h : value.Proper) :
    (foldFields names value).Proper := by
  have hfold (fields into : List (String × Json)) (hfields : ∀ f ∈ fields, f.2.Proper)
      (hinto : ∀ f ∈ into, f.2.Proper) :
      ∀ f ∈ fields.foldl (fun acc f =>
        Assoc.put ((names.find? fun n => n = Text.lowered f.1).getD f.1) f.2 acc) into,
        f.2.Proper := by
    induction fields generalizing into with
    | nil => exact hinto
    | cons f fs ih =>
      obtain ⟨hf, hfs⟩ := List.forall_mem_cons.mp hfields
      exact ih _ hfs (proper_put hinto _ hf)
  cases h with
  | obj each => exact .obj (hfold _ [] each (List.forall_mem_nil _))
  | torn halves => exact .torn halves
  | arr each => exact .arr each
  | _ => constructor

theorem proper_decode {source : Source} {part text : String} {value : Json}
    (h : decode source part text = .ok value) : value.Proper :=
  proper_parse (mapError_eq_ok_iff.mp h)

theorem proper_fieldValue {source : Source} {options : Options} {part : String}
    {way : List String} {text : Option String} {value : Json}
    (h : fieldValue source options part way text = .ok (some value)) : value.Proper := by
  unfold fieldValue at h
  split at h
  · cases h
    exact .null
  · split at h
    · obtain ⟨decoded, hdecoded, h⟩ := bind_eq_ok_iff.mp h
      cases h
      exact proper_decode hdecoded
    · split at h
      · cases h
      · cases h
        exact .str _

theorem proper_collectFields {source : Source} {options : Options} {part : String}
    {vars : Variables} {found value : Json} (hfound : found.Proper)
    (h : collectFields source options part found vars = .ok value) : value.Proper := by
  induction vars generalizing found with
  | nil => cases h; exact hfound
  | cons v vars ih =>
    obtain ⟨name, text⟩ := v
    rw [collectFields] at h
    simp only at h
    split at h
    · obtain ⟨read, hread, h⟩ := bind_eq_ok_iff.mp h
      cases read with
      | some value => exact ih (proper_assign _ (proper_fieldValue hread) _ hfound) h
      | none =>
        refine ih ?_ h
        split
        · exact hfound
        · exact proper_assign _ .null _ hfound
    · exact ih hfound h

theorem proper_readPart {source : Source} {options : Options} {vars : Variables} {part : String}
    {value : Json} (h : readPart source options vars part = .ok (some value)) : value.Proper := by
  have hempty : (Json.obj []).Proper := .obj (List.forall_mem_nil _)
  unfold readPart at h
  split at h
  · obtain ⟨found, hfound, h⟩ := bind_eq_ok_iff.mp h
    have hproper := proper_collectFields hempty hfound
    split at h
    · cases h
      exact hproper
    · cases h
  · split at h
    · cases h
      exact .null
    · obtain ⟨decoded, hdecoded, h⟩ := bind_eq_ok_iff.mp h
      have hproper := proper_decode hdecoded
      split at h
      · cases h
      · obtain ⟨found, hfound, h⟩ := bind_eq_ok_iff.mp h
        cases h
        exact proper_overlay hproper _ (proper_collectFields hempty hfound)
      · cases h
        exact hproper

theorem proper_readSource {source : Source} {options : Options} {vars : Variables}
    {value : Json} (h : readSource source options vars = .ok value) : value.Proper := by
  unfold readSource at h
  obtain ⟨found, hfound, h⟩ := bind_eq_ok_iff.mp h
  cases h
  refine .obj fun field hfield => ?_
  obtain ⟨entry, hentry, rfl⟩ := List.mem_filterMap.mp hfield
  obtain ⟨part, -, hpart⟩ := of_mem_mapM hfound _ hentry
  obtain ⟨value, hvalue, hentry⟩ := bind_eq_ok_iff.mp hpart
  cases value with
  | none => cases hentry
  | some value =>
    cases hentry
    have hproper := proper_readPart hvalue
    show Proper (if options.exactCase then value else foldFields part.2 value)
    split
    · exact hproper
    · exact proper_foldFields part.2 hproper

/-- Settings from the environment and a file alone are read from one value. -/
theorem of_load {inputs : Inputs} (bare : inputs.arguments = .obj []) {s : Settings}
    (h : load inputs = .ok s) : ∃ root : Json, root.Proper ∧ Settings.read root = .ok s := by
  unfold load at h
  obtain ⟨options, -, h⟩ := bind_eq_ok_iff.mp h
  obtain ⟨environment, henvironment, h⟩ := bind_eq_ok_iff.mp h
  obtain ⟨file, hfile, h⟩ := bind_eq_ok_iff.mp h
  have hsources := proper_overlay (proper_readSource hfile) _ (proper_readSource henvironment)
  have harguments : (foldArguments inputs.arguments).Proper := by
    rw [bare]
    exact .obj (List.forall_mem_nil _)
  exact ⟨_, proper_overlay hsources _ harguments, mapError_eq_ok_iff.mp h⟩

/-! ## What is checked of a value -/

section

variable {α β : Type} {name : String} {default x : α} {read : Json → Checked α}

theorem both_eq_ok_iff {a : Checked α} {b : Checked β} {y : β} :
    Checked.both a b = .ok (x, y) ↔ a = .ok x ∧ b = .ok y := by
  cases a <;> cases b <;> simp [Checked.both]

/-- A field is its default or what was read. -/
theorem of_readField {part : Json} (h : readField part name default read = .ok x) :
    x = default ∨ ∃ value, part.get? name = some value ∧ read value = .ok x := by
  unfold readField at h
  split at h
  · cases h
    exact .inl rfl
  · next value hvalue => exact .inr ⟨value, hvalue, mapError_eq_ok_iff.mp h⟩

/-- A section is empty or an object of the value. -/
theorem of_inSection {root : Json} {model : String} (h : inSection root name model read = .ok x) :
    ∃ part, (part = .obj [] ∨ root.get? name = some part) ∧ read part = .ok x := by
  unfold inSection readSection at h
  cases hroot : root.get? name with
  | none =>
    rw [hroot] at h
    exact ⟨_, .inl rfl, mapError_eq_ok_iff.mp h⟩
  | some found =>
    rw [hroot] at h
    cases found with
    | obj fields => exact ⟨_, .inr rfl, mapError_eq_ok_iff.mp h⟩
    | _ => cases h

end

theorem of_readIntFrom {least n : Int} {value : Json} (h : readIntFrom least value = .ok n) :
    least ≤ n := by
  unfold readIntFrom at h
  split at h
  · cases h
  · split at h
    · cases h
    · next hleast =>
      cases h
      exact Int.not_lt.mp hleast

theorem le_of_readField {part : Json} {name : String} {least default n : Int}
    (hdefault : least ≤ default) (h : readField part name default (readIntFrom least) = .ok n) :
    least ≤ n := by
  rcases of_readField h with rfl | ⟨value, -, hread⟩
  · exact hdefault
  · exact of_readIntFrom hread

/-- The texts of settings are each kept in their own form. -/
theorem proper_readText {part : Json} (hpart : part.Proper) {name : String} {default text : Phrase}
    (hdefault : default.Proper) (h : readField part name default readText = .ok text) :
    text.Proper := by
  rcases of_readField h with rfl | ⟨value, hvalue, hread⟩
  · exact hdefault
  · unfold readText at hread
    split at hread
    · next found hphrase =>
      cases hread
      exact (hpart.get hvalue).phrase hphrase
    · cases hread

/-- What is known of settings that are accepted. -/
structure Accepted (s : Settings) : Prop where
  lifetime : 1 ≤ s.lifetime
  passes : 1 ≤ s.passes
  memory : 8 ≤ s.memory
  lanes : 1 ≤ s.lanes
  /-- Where there are demo clients the scope they have is known. -/
  demo : s.seedDemo → s.scopes.contains (.plain "basic")

theorem accepted_of_read {root : Json} {s : Settings} (h : Settings.read root = .ok s) :
    s.Accepted ∧ (root.Proper → s.realm.Proper) := by
  unfold Settings.read at h
  obtain ⟨⟨⟨environment, service, logLevel⟩, lifetime, scopes, ⟨passes, memory, lanes⟩, seedDemo,
    realm⟩, hparts, h⟩ := bind_eq_ok_iff.mp h
  simp only [both_eq_ok_iff] at hparts
  obtain ⟨-, htoken, -, hhashing, hclients⟩ := hparts
  obtain ⟨token, -, htoken⟩ := of_inSection htoken
  obtain ⟨hashing, -, hhashing⟩ := of_inSection hhashing
  obtain ⟨clients, hsection, hclients⟩ := of_inSection hclients
  simp only [readHashing, both_eq_ok_iff] at hhashing
  simp only [readClients, both_eq_ok_iff] at hclients
  obtain ⟨hpasses, hmemory, hlanes⟩ := hhashing
  simp only at h
  -- The last check is one across the parts: the demo records take a scope to be there.
  split at h
  · cases h
  · next hdemo =>
    cases h
    refine ⟨⟨le_of_readField (by decide) htoken, le_of_readField (by decide) hpasses,
      le_of_readField (by decide) hmemory, le_of_readField (by decide) hlanes, fun hseed => ?_⟩,
      fun hroot => ?_⟩
    · have hseeded : seedDemo = true := hseed
      rw [hseeded, Bool.true_and, Bool.not_eq_true', Bool.not_eq_false] at hdemo
      exact hdemo
    · have hproper : clients.Proper := by
        rcases hsection with rfl | hsection
        · exact .obj (List.forall_mem_nil _)
        · exact hroot.get hsection
      have hoauth : (Phrase.plain "oauth").Proper := trivial
      exact proper_readText hproper hoauth hclients.2

end TokenIssuer.Settings
