import TokenIssuer.Proofs.Result
import TokenIssuer.Proofs.Secret

/-!
Texts that are no hash. A check against most of them does not match; a check against one that is
laid out as a hash fails when one of its parts cannot be taken.
-/

namespace TokenIssuer.Secret

variable {s : List Char} {layout : Layout} {fault : Fault} {presented : Presented}
  {stored : String}

namespace Layout

/-- A part cannot be decoded, and all parts before it are, none left for its length alone. -/
inductive PartFails (fault : Fault) : List (Option (List Char)) → Prop where
  | here {part : Option (List Char)} {rest : List (Option (List Char))}
      (broken : readPart part = .error fault) : PartFails fault (part :: rest)
  | after {part : Option (List Char)} {rest : List (Option (List Char))}
      {bytes : Option (List UInt8)} (decoded : readPart part = .ok (some bytes))
      (fails : PartFails fault rest) : PartFails fault (part :: rest)

/-- The parts that may be written in Base64, in the order in which they are decoded. -/
def parts (layout : Layout) : List (Option (List Char)) := [layout.salt, layout.data, layout.tag]

/-- No number is too long to be read. -/
def Short (layout : Layout) : Prop := ∀ digits ∈ layout.numbers, digits.length ≤ Number.maxDigits

/-- The name of the variant in a text. -/
def name (s : List Char) : List Char := ((s.drop 1).span (· ≠ '$')).1

/-- What makes a check against a text that is laid out so fail: a key identifier; a part that cannot
be decoded; a salt that is not there; or data that come with a salt and numbers in range. -/
inductive Spoils (s : List Char) (layout : Layout) : Fault → Prop where
  | keyId (given : layout.keyId = true) : Spoils s layout .keyId
  | part {fault : Fault} (plain : layout.keyId = false) (short : layout.Short)
      (fails : PartFails fault layout.parts) : Spoils s layout fault
  | noSalt (plain : layout.keyId = false) (short : layout.Short)
      (decoded : ∀ part ∈ layout.parts, ∃ bytes, readPart part = .ok (some bytes))
      (absent : layout.salt = none) : Spoils s layout .noSalt
  | data {salt : List UInt8} (plain : layout.keyId = false) (short : layout.Short)
      (decoded : ∀ part ∈ layout.parts, ∃ bytes, readPart part = .ok (some bytes))
      (salted : readPart layout.salt = .ok (some (some salt))) (long : 8 ≤ salt.length)
      (range : numbersInRange (variant? (name s)) (layout.numbers.map value))
      (given : layout.data ≠ none) : Spoils s layout .data

end Layout

theorem readPart_eq_none_iff {part : Option (List Char)} :
    readPart part = .ok (some none) ↔ part = none := by
  unfold readPart
  cases part with
  | none => exact iff_of_true rfl rfl
  | some written =>
    refine iff_of_false (fun h => ?_) (Option.some_ne_none written)
    dsimp only at h
    split at h
    · cases h
    · split at h <;> cases h

theorem not_long_iff :
    ¬ layout.numbers.any (fun digits => Number.maxDigits < digits.length) = true ↔
      layout.Short := by
  rw [Bool.not_eq_true, List.any_eq_false]
  refine forall_congr' fun digits => imp_congr_right fun _ => ?_
  rw [decide_eq_true_eq, Nat.not_lt]

theorem in_range_iff {n : Nat} {range : Bool} :
    ¬ (n < 8 ∨ (!range) = true) ↔ 8 ≤ n ∧ range = true := by
  rw [not_or, Nat.not_lt, Bool.not_eq_true, Bool.not_eq_false']

/-- A check part by part does not match, unless one of the parts makes it fail. -/
theorem checkLayout_cases (s : List Char) :
    checkLayout s = .ok false ∨ ∃ fault layout, checkLayout s = .error fault ∧
      Layout.read? s = some layout ∧ layout.Spoils s fault := by
  unfold checkLayout
  cases hlayout : Layout.read? s with
  | none => exact .inl rfl
  | some layout =>
    dsimp only
    by_cases hkey : layout.keyId
    · rw [if_pos hkey]
      exact .inr ⟨_, layout, rfl, rfl, .keyId hkey⟩
    by_cases hlong : layout.numbers.any (fun digits => Number.maxDigits < digits.length) = true
    · rw [if_neg hkey, if_pos hlong]
      exact .inl rfl
    rw [if_neg hkey, if_neg hlong]
    have plain : layout.keyId = false := Bool.eq_false_iff.mpr hkey
    have short := not_long_iff.mp hlong
    -- The parts are decoded in order, and the first that cannot be ends the check.
    cases hsalt : readPart layout.salt with
    | error fault => exact .inr ⟨fault, layout, rfl, rfl, .part plain short (.here hsalt)⟩
    | ok salt? =>
    rcases salt? with _ | salt
    · exact .inl rfl
    cases hdata : readPart layout.data with
    | error fault =>
      exact .inr ⟨fault, layout, rfl, rfl, .part plain short (.after hsalt (.here hdata))⟩
    | ok data? =>
    rcases data? with _ | data
    · exact .inl rfl
    cases htag : readPart layout.tag with
    | error fault =>
      exact .inr ⟨fault, layout, rfl, rfl,
        .part plain short (.after hsalt (.after hdata (.here htag)))⟩
    | ok tag? =>
    rcases tag? with _ | tag
    · exact .inl rfl
    have decoded : ∀ part ∈ layout.parts, ∃ bytes, readPart part = .ok (some bytes) := by
      unfold Layout.parts
      simp only [List.forall_mem_cons, List.not_mem_nil, false_imp_iff, implies_true, and_true]
      exact ⟨⟨_, hsalt⟩, ⟨_, hdata⟩, ⟨_, htag⟩⟩
    rcases salt with _ | salt
    · exact .inr ⟨_, layout, rfl, rfl,
        .noSalt plain short decoded (readPart_eq_none_iff.mp hsalt)⟩
    by_cases hrange : salt.length < 8 ∨
        (!numbersInRange (variant? (Layout.name s)) (layout.numbers.map Layout.value)) = true
    · exact .inl (if_pos hrange)
    rcases data with _ | data
    · exact .inl (if_neg hrange)
    · obtain ⟨long, range⟩ := in_range_iff.mp hrange
      refine .inr ⟨_, layout, if_neg hrange, rfl,
        .data plain short decoded hsalt long range fun hnone => ?_⟩
      rw [readPart_eq_none_iff.mpr hnone] at hdata
      cases hdata

theorem checkLayout_of_spoils (hlayout : Layout.read? s = some layout)
    (spoils : layout.Spoils s fault) : checkLayout s = .error fault := by
  unfold checkLayout
  rw [hlayout]
  dsimp only
  cases spoils with
  | keyId given => rw [if_pos given]
  | part plain short fails =>
    rw [if_neg (Bool.eq_false_iff.mp plain), if_neg (not_long_iff.mpr short)]
    -- The parts are decoded in their order, and the first that is broken raises.
    cases fails with
    | here broken => rw [broken]; rfl
    | after salted fails =>
      rw [salted]
      cases fails with
      | here broken => simp only [broken, bind, Except.bind]
      | after given fails =>
        cases fails with
        | here broken => simp only [given, broken, bind, Except.bind]
        | after _ fails => cases fails
  | noSalt plain short decoded absent =>
    -- All three parts are decoded before the salt is missed.
    obtain ⟨data, hdata⟩ := decoded layout.data (by simp [Layout.parts])
    obtain ⟨tag, htag⟩ := decoded layout.tag (by simp [Layout.parts])
    rw [if_neg (Bool.eq_false_iff.mp plain), if_neg (not_long_iff.mpr short)]
    simp only [readPart_eq_none_iff.mpr absent, hdata, htag, bind, Except.bind]
  | @data salt plain short decoded salted long range given =>
    obtain ⟨data, hdata⟩ := decoded layout.data (by simp [Layout.parts])
    obtain ⟨tag, htag⟩ := decoded layout.tag (by simp [Layout.parts])
    have hsome : data.isSome = true := by
      cases data with
      | none => exact absurd (readPart_eq_none_iff.mp hdata) given
      | some bytes => rfl
    have hrange : ¬ (salt.length < 8 ∨
        (!numbersInRange (variant? ((s.drop 1).span (· ≠ '$')).1)
          (layout.numbers.map Layout.value)) = true) := in_range_iff.mpr ⟨long, range⟩
    rw [if_neg (Bool.eq_false_iff.mp plain), if_neg (not_long_iff.mpr short)]
    simp only [salted, hdata, htag, bind, Except.bind]
    rw [if_neg hrange, if_pos hsome]

theorem checkLayout_eq_error_iff :
    checkLayout s = .error fault ↔
      ∃ layout, Layout.read? s = some layout ∧ layout.Spoils s fault := by
  constructor
  · intro h
    rcases checkLayout_cases s with hfalse | ⟨other, layout, hother, hlayout, spoils⟩
    · rw [hfalse] at h
      cases h
    · rw [hother] at h
      cases h
      exact ⟨layout, hlayout, spoils⟩
  · rintro ⟨layout, hlayout, spoils⟩
    exact checkLayout_of_spoils hlayout spoils

theorem checkLayout_ne_true (s : List Char) : checkLayout s ≠ .ok true := by
  rcases checkLayout_cases s with h | ⟨_, _, h, _⟩
  · rw [h]
    simp
  · rw [h]
    simp

/-! ## Checks -/

/-- The text spells a hash in range, up to a character of code zero. -/
def Spells (stored : String) (e : Encoded) : Prop := e.Writes (upToNul stored) ∧ e.inRange

/-- The text is laid out as a hash, but it spells none, and a part of it makes every check fail. -/
structure Raises (stored : String) (fault : Fault) : Prop where
  ascii : ∀ c ∈ stored.toList, c.toNat < 0x80
  malformed : ∀ e, ¬ Spells stored e
  spoilt : ∃ layout, Layout.read? stored.toList = some layout ∧
    layout.Spoils stored.toList fault

theorem looksLikeHash_of_layout (h : Layout.read? s = some layout) : looksLikeHash s = true := by
  unfold Layout.read? at h
  obtain ⟨named, hnamed, h⟩ := Option.bind_eq_some_iff.mp h
  obtain ⟨name, rest, hspan⟩ :
      ∃ name rest, named.span (fun c => 'a' ≤ c ∧ c ≤ 'z') = (name, rest) := ⟨_, _, rfl⟩
  rw [hspan] at h
  dsimp only at h
  unfold looksLikeHash
  rw [hnamed]
  dsimp only
  rw [hspan]
  cases name with
  | nil => cases h
  | cons c cs =>
    obtain ⟨rest', hrest, -⟩ := Option.bind_eq_some_iff.mp h
    have hdollar : rest = '$' :: rest' := after?_eq_some_iff.mp hrest
    rw [hdollar]
    rfl

/-- How a check of what fits goes: the text is no candidate, it spells a hash, or it is looked at
part by part. -/
inductive Checks (presented : Presented) (stored : String) : Prop where
  | refused (differs : verify presented stored = .ok false)
      (apart : presented.fits = false ∨ looksLikeHash stored.toList = false ∨
        ∃ c ∈ stored.toList, 0x80 ≤ c.toNat)
  | spelt {e : Encoded} (fits : presented.fits) (ascii : ∀ c ∈ stored.toList, c.toNat < 0x80)
      (spells : Spells stored e)
      (decided : verify presented stored = .ok (e.accepts presented.toBytes))
  | laidOut (fits : presented.fits) (ascii : ∀ c ∈ stored.toList, c.toNat < 0x80)
      (malformed : ∀ e, ¬ Spells stored e)
      (checked : verify presented stored = checkLayout stored.toList)

theorem checks (presented : Presented) (stored : String) : Checks presented stored := by
  cases hfits : presented.fits with
  | false => exact .refused (verify_of_not_fits hfits stored) (.inl hfits)
  | true =>
    cases hhash : looksLikeHash stored.toList with
    | false => exact .refused (verify_of_no_hash hhash presented) (.inr (.inl hhash))
    | true =>
      by_cases hascii : ∀ c ∈ stored.toList, c.toNat < 0x80
      · by_cases hspells : ∃ e, Spells stored e
        · obtain ⟨e, hspells⟩ := hspells
          exact .spelt hfits hascii hspells
            (Encoded.verify_of_writes hspells.1 hspells.2 hascii hfits)
        · have hmalformed : ∀ e, ¬ Spells stored e := fun e h => hspells ⟨e, h⟩
          have hnone : Encoded.read? (upToNul stored) = none :=
            Option.eq_none_iff_forall_ne_some.mpr fun e hread =>
              hmalformed e (Encoded.read?_eq_some_iff.mp hread)
          have hchecked := verify_of_candidate hhash hfits hascii
          rw [hnone] at hchecked
          exact .laidOut hfits hascii hmalformed hchecked
      · simp only [not_forall, Nat.not_lt] at hascii
        obtain ⟨c, hc, hlarge⟩ := hascii
        have hany : stored.toList.any (fun c => decide (0x80 ≤ c.toNat)) = true :=
          List.any_eq_true.mpr ⟨c, hc, decide_eq_true hlarge⟩
        refine .refused ?_ (.inr (.inr ⟨c, hc, hlarge⟩))
        unfold verify
        simp only [hany, Bool.or_true, if_true]

theorem spells_unique {e other : Encoded} (h : Spells stored e) (h' : Spells stored other) :
    e = other :=
  Option.some.inj ((Encoded.read?_eq_some_iff.mpr h).symm.trans (Encoded.read?_eq_some_iff.mpr h'))

/-- A check fails on exactly the texts that make every check fail. -/
theorem verify_eq_error_iff :
    verify presented stored = .error fault ↔ presented.fits ∧ Raises stored fault := by
  cases checks presented stored with
  | refused differs apart =>
    rw [differs]
    refine iff_of_false (by simp) fun ⟨fits, raises⟩ => ?_
    obtain ⟨layout, hlayout, -⟩ := raises.spoilt
    rcases apart with hfits | hhash | ⟨c, hc, hlarge⟩
    · rw [hfits] at fits; cases fits
    · rw [looksLikeHash_of_layout hlayout] at hhash; cases hhash
    · exact absurd (raises.ascii c hc) (Nat.not_lt.mpr hlarge)
  | spelt fits ascii spells decided =>
    rw [decided]
    exact iff_of_false (by simp) fun h => h.2.malformed _ spells
  | laidOut fits ascii malformed checked =>
    rw [checked, checkLayout_eq_error_iff]
    exact ⟨fun h => ⟨fits, ascii, malformed, h⟩, fun h => h.2.spoilt⟩

theorem verify_answers_iff :
    (∃ answer, verify presented stored = .ok answer) ↔
      ¬ (presented.fits ∧ ∃ fault, Raises stored fault) := by
  cases h : verify presented stored with
  | ok answer =>
    refine iff_of_true ⟨answer, rfl⟩ fun ⟨fits, fault, raises⟩ => ?_
    rw [verify_eq_error_iff.mpr ⟨fits, raises⟩] at h
    cases h
  | error fault =>
    obtain ⟨fits, raises⟩ := verify_eq_error_iff.mp h
    exact iff_of_false (by simp) fun hnot => hnot ⟨fits, fault, raises⟩

/-- A secret matches exactly the texts that spell a hash of it. -/
theorem verify_eq_true_iff :
    verify presented stored = .ok true ↔
      presented.fits ∧ (∀ c ∈ stored.toList, c.toNat < 0x80) ∧
        ∃ e, Spells stored e ∧ e.accepts presented.toBytes := by
  cases checks presented stored with
  | refused differs apart =>
    rw [differs]
    refine iff_of_false (by simp) fun ⟨fits, ascii, e, spells, _⟩ => ?_
    rcases apart with hfits | hhash | ⟨c, hc, hlarge⟩
    · rw [hfits] at fits; cases fits
    · rw [Encoded.looksLikeHash_of_writes spells.1] at hhash; cases hhash
    · exact absurd (ascii c hc) (Nat.not_lt.mpr hlarge)
  | @spelt e fits ascii spells decided =>
    rw [decided, Except.ok.injEq]
    refine ⟨fun h => ⟨fits, ascii, e, spells, h⟩, fun ⟨_, _, other, hspells, haccepts⟩ => ?_⟩
    rw [spells_unique spells hspells]
    exact haccepts
  | laidOut fits ascii malformed checked =>
    rw [checked]
    exact iff_of_false (checkLayout_ne_true _) fun ⟨_, _, e, spells, _⟩ => malformed e spells

/-! ## What follows a character of code zero -/

theorem upToNul_append_nul (stored rest : String) :
    upToNul (stored ++ "\x00" ++ rest) = upToNul stored := by
  unfold upToNul
  rw [String.toList_append, String.toList_append, List.append_assoc]
  induction stored.toList with
  | nil => rfl
  | cons c cs ih =>
    rw [List.cons_append, List.takeWhile_cons, List.takeWhile_cons, ih]

/-- What follows a character of code zero is not looked at, as long as it is ASCII. -/
theorem verify_append_nul {rest : String} (ascii : ∀ c ∈ rest.toList, c.toNat < 0x80)
    (h : verify presented stored = .ok true) :
    verify presented (stored ++ "\x00" ++ rest) = .ok true := by
  obtain ⟨fits, hstored, e, spells, haccepts⟩ := verify_eq_true_iff.mp h
  refine verify_eq_true_iff.mpr ⟨fits, fun c hc => ?_, e, ?_, haccepts⟩
  · rw [String.toList_append, String.toList_append, List.mem_append, List.mem_append] at hc
    rcases hc with (hc | hc) | hc
    · exact hstored c hc
    · rw [List.mem_singleton.mp hc]
      decide
    · exact ascii c hc
  · unfold Spells
    rw [upToNul_append_nul]
    exact spells

theorem not_writes_append_nul (stored rest : String) (e : Encoded) :
    ¬ e.Writes (stored ++ "\x00" ++ rest).toList := by
  intro h
  have hnul : '\x00' ∈ (stored ++ "\x00" ++ rest).toList := by
    rw [String.toList_append, String.toList_append]
    exact List.mem_append_left _ (List.mem_append_right _ (List.mem_singleton_self _))
  exact absurd (Encoded.plain_of_mem_writes h hnul).1 (by decide)

end TokenIssuer.Secret
