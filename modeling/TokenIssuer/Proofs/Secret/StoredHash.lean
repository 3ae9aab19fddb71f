import Mathlib.Data.Bool.AllAny
import Mathlib.Data.List.TakeDrop
import Mathlib.Data.List.TakeWhile
import TokenIssuer.Secret.StoredHash
import TokenIssuer.Proofs.Encoding.Base64
import TokenIssuer.Proofs.Number

/-!
Well-formed hashes. What is read as a hash is exactly what spells it part by part: numbers without
zeros in front, and Base64 without padding and without bits left over.
-/

namespace TokenIssuer.Secret

open Crypto

/-! ## The parts -/

theorem after?_append (literal : String) (rest : List Char) :
    after? literal (literal.toList ++ rest) = some rest := by
  unfold after?
  have hp : literal.toList.isPrefixOf (literal.toList ++ rest) = true :=
    List.isPrefixOf_iff_prefix.mpr (List.prefix_append _ _)
  rw [if_pos hp, ← String.length_toList, List.drop_left]

theorem after?_eq_some_iff {literal : String} {s rest : List Char} :
    after? literal s = some rest ↔ s = literal.toList ++ rest := by
  constructor
  · intro h
    unfold after? at h
    split at h
    next hp =>
      cases h
      rw [← String.length_toList]
      exact (List.prefix_iff_eq_append.mp (List.isPrefixOf_iff_prefix.mp hp)).symm
    next => cases h
  · rintro rfl
    exact after?_append literal rest

theorem variant?_variantName (v : Argon2.Variant) :
    variant? (variantName v).toList = some v := by
  cases v <;> rfl

theorem variant?_eq_some_iff {name : List Char} {v : Argon2.Variant} :
    variant? name = some v ↔ name = (variantName v).toList := by
  constructor
  · intro h
    unfold variant? at h
    rw [← String.toList_ofList (l := name)]
    split at h
    next hname => cases h; rw [hname]; rfl
    next hname => cases h; rw [hname]; rfl
    next hname => cases h; rw [hname]; rfl
    next => cases h
  · rintro rfl
    exact variant?_variantName v

/-- A number in decimal digits is read back when a mark follows it that does not begin with one. -/
theorem takeWord?_append {n : Nat} (h : n < 0x100000000) {mark : String}
    (hm : ∃ c cs, mark.toList = c :: cs ∧ Number.decimalValue? c = none) (rest : List Char) :
    takeWord? (Nat.toDigits 10 n ++ (mark.toList ++ rest)) = some (n, mark.toList ++ rest) := by
  have hr : ∀ c ∈ (mark.toList ++ rest).head?, Number.decimalValue? c = none := by
    obtain ⟨c, cs, he, hc⟩ := hm
    rw [he]
    intro d hd
    cases hd
    exact hc
  have hdigits (c : Char) (hc : c ∈ Nat.toDigits 10 n) : c.isDigit :=
    Nat.isDigit_of_mem_toDigits (by omega) (by omega) hc
  have htake := Number.takeDigits_append hdigits hr
  have hvalue := Number.ofDigits_toDigits n
  unfold takeWord?
  rw [htake]
  by_cases hn : n = 0
  · subst hn
    rfl
  · obtain ⟨c, cs, he, hc⟩ := Number.head_toDigits (Nat.pos_of_ne_zero hn)
    rw [he, List.map_cons] at hvalue ⊢
    split
    next heq => exact absurd (Prod.mk.inj heq).1 (by simp)
    next heq => exact absurd (List.cons.inj (Prod.mk.inj heq).1).1 hc
    next heq =>
      obtain ⟨rfl, rfl⟩ := Prod.mk.inj heq
      rw [hvalue, if_pos h]

/-- A number that is read stands there in decimal digits, without zeros in front. -/
theorem of_takeWord? {s rest : List Char} {n : Nat} (h : takeWord? s = some (n, rest)) :
    s = Nat.toDigits 10 n ++ rest ∧ n < 0x100000000 := by
  unfold takeWord? at h
  obtain ⟨digits, after, htake⟩ : ∃ digits after, Number.takeDigits s = (digits, after) :=
    ⟨_, _, rfl⟩
  obtain ⟨rfl, hsmall⟩ := Number.takeDigits_eq htake
  rw [htake] at h
  split at h
  · cases h
  · cases h
  next hnil hzero heq =>
    obtain ⟨rfl, rfl⟩ := Prod.mk.inj heq
    simp only [Option.ite_none_right_eq_some, Option.some.injEq, Prod.mk.injEq] at h
    obtain ⟨hlt, rfl, rfl⟩ := h
    match digits with
    | [] => exact absurd rfl hnil
    | d :: ds =>
      -- A zero in front of other digits is not read.
      have hhead : d ≠ 0 ∨ ds = [] := by
        rcases ds with _ | ⟨d', ds⟩
        · exact .inr rfl
        · exact .inl fun hd => hzero d' ds (by rw [hd])
      rw [Number.toDigits_ofDigits hsmall hhead]
      exact ⟨rfl, hlt⟩

theorem takeBase64_append {s rest : List Char} (hs : ∀ c ∈ s, (Base64.value? c).isSome)
    (hr : ∀ c ∈ rest.head?, (Base64.value? c).isSome = false) :
    takeBase64 (s ++ rest) = (s, rest) := by
  unfold takeBase64
  rw [List.span_eq_takeWhile_dropWhile]
  have htake : rest.takeWhile (fun c => (Base64.value? c).isSome) = [] := by
    cases rest with
    | nil => rfl
    | cons c cs => exact List.takeWhile_cons_of_neg (by rw [hr c rfl]; exact Bool.false_ne_true)
  have hdrop : rest.dropWhile (fun c => (Base64.value? c).isSome) = rest := by
    cases rest with
    | nil => rfl
    | cons c cs => exact List.dropWhile_cons_of_neg (by rw [hr c rfl]; exact Bool.false_ne_true)
  rw [List.takeWhile_append_of_pos hs, List.dropWhile_append_of_pos hs, htake, hdrop,
    List.append_nil]

theorem append_of_span {p : Char → Bool} {s taken rest : List Char}
    (h : s.span p = (taken, rest)) : s = taken ++ rest := by
  rw [List.span_eq_takeWhile_dropWhile] at h
  obtain ⟨rfl, rfl⟩ := Prod.mk.inj h
  exact List.takeWhile_append_dropWhile.symm

namespace Encoded

/-! ## The costs, the salt and the tag -/

/-- The text form after the version. -/
def body (e : Encoded) : List Char :=
  "$m=".toList ++ (Nat.toDigits 10 e.parameters.memory ++ (",t=".toList ++
    (Nat.toDigits 10 e.parameters.passes ++ (",p=".toList ++
      (Nat.toDigits 10 e.parameters.lanes ++ ("$".toList ++
        (Base64.encode e.salt ++ ("$".toList ++ Base64.encode e.tag))))))))

/-- Reads what comes after the version. -/
def readBody? (variant : Argon2.Variant) (version : Nat) (s : List Char) : Option Encoded := do
  let (memory, rest) ← takeWord? (← after? "$m=" s)
  let (passes, rest) ← takeWord? (← after? ",t=" rest)
  let (lanes, rest) ← takeWord? (← after? ",p=" rest)
  let (salt, rest) := takeBase64 (← after? "$" rest)
  let (tag, rest) := takeBase64 (← after? "$" rest)
  let encoded : Encoded :=
    { parameters := { variant, version, passes, memory, lanes }
      salt := ← Base64.decodeUnpadded? salt
      tag := ← Base64.decodeUnpadded? tag }
  if rest.isEmpty && encoded.inRange then some encoded else none

theorem words_of_inRange {e : Encoded} (range : e.inRange) :
    e.parameters.memory < 0x100000000 ∧ e.parameters.passes < 0x100000000 ∧
      e.parameters.lanes < 0x100000000 := by
  simp only [inRange, Argon2.Parameters.inLimits, Bool.and_eq_true, decide_eq_true_eq] at range
  omega

theorem readBody?_body {e : Encoded} (range : e.inRange) :
    readBody? e.parameters.variant e.parameters.version e.body = some e := by
  obtain ⟨hmemory, hpasses, hlanes⟩ := words_of_inRange range
  have hsalt (c : Char) (hc : c ∈ Base64.encode e.salt) : (Base64.value? c).isSome :=
    Base64.isSome_value?_of_mem_encode hc
  have htag (c : Char) (hc : c ∈ Base64.encode e.tag) : (Base64.value? c).isSome :=
    Base64.isSome_value?_of_mem_encode hc
  have hlast : takeBase64 (Base64.encode e.tag) = (Base64.encode e.tag, []) := by
    have h : takeBase64 (Base64.encode e.tag ++ []) = (Base64.encode e.tag, []) :=
      takeBase64_append htag (by simp)
    rwa [List.append_nil] at h
  have hfirst (c : Char) (hc : c ∈ ("$".toList ++ Base64.encode e.tag).head?) :
      (Base64.value? c).isSome = false := by
    cases hc
    rfl
  unfold readBody? body
  -- Each number is followed by the mark of the next part, which begins with no digit.
  refine Option.bind_eq_some_iff.mpr ⟨_, after?_append _ _, ?_⟩
  refine Option.bind_eq_some_iff.mpr ⟨_, takeWord?_append hmemory ⟨',', _, rfl, rfl⟩ _, ?_⟩
  refine Option.bind_eq_some_iff.mpr ⟨_, after?_append _ _, ?_⟩
  refine Option.bind_eq_some_iff.mpr ⟨_, takeWord?_append hpasses ⟨',', _, rfl, rfl⟩ _, ?_⟩
  refine Option.bind_eq_some_iff.mpr ⟨_, after?_append _ _, ?_⟩
  refine Option.bind_eq_some_iff.mpr ⟨_, takeWord?_append hlanes ⟨'$', _, rfl, rfl⟩ _, ?_⟩
  refine Option.bind_eq_some_iff.mpr ⟨_, after?_append _ _, ?_⟩
  rw [takeBase64_append hsalt hfirst]
  refine Option.bind_eq_some_iff.mpr ⟨_, after?_append _ _, ?_⟩
  rw [hlast]
  refine Option.bind_eq_some_iff.mpr ⟨_, Base64.decodeUnpadded?_encode _, ?_⟩
  refine Option.bind_eq_some_iff.mpr ⟨_, Base64.decodeUnpadded?_encode _, ?_⟩
  exact if_pos range

theorem of_readBody? {variant : Argon2.Variant} {version : Nat} {s : List Char} {e : Encoded}
    (h : readBody? variant version s = some e) :
    s = e.body ∧ e.parameters.variant = variant ∧ e.parameters.version = version ∧ e.inRange := by
  unfold readBody? at h
  obtain ⟨s1, h1, h⟩ := Option.bind_eq_some_iff.mp h
  obtain ⟨⟨memory, s2⟩, h2, h⟩ := Option.bind_eq_some_iff.mp h
  obtain ⟨s3, h3, h⟩ := Option.bind_eq_some_iff.mp h
  obtain ⟨⟨passes, s4⟩, h4, h⟩ := Option.bind_eq_some_iff.mp h
  obtain ⟨s5, h5, h⟩ := Option.bind_eq_some_iff.mp h
  obtain ⟨⟨lanes, s6⟩, h6, h⟩ := Option.bind_eq_some_iff.mp h
  obtain ⟨s7, h7, h⟩ := Option.bind_eq_some_iff.mp h
  obtain ⟨salt, s8, h8⟩ : ∃ salt s8, takeBase64 s7 = (salt, s8) := ⟨_, _, rfl⟩
  rw [h8] at h
  obtain ⟨s9, h9, h⟩ := Option.bind_eq_some_iff.mp h
  obtain ⟨tag, s10, h10⟩ : ∃ tag s10, takeBase64 s9 = (tag, s10) := ⟨_, _, rfl⟩
  rw [h10] at h
  obtain ⟨saltBytes, hsalt, h⟩ := Option.bind_eq_some_iff.mp h
  obtain ⟨tagBytes, htag, h⟩ := Option.bind_eq_some_iff.mp h
  simp only [Option.ite_none_right_eq_some, Option.some.injEq, Bool.and_eq_true,
    List.isEmpty_iff] at h
  obtain ⟨⟨rfl, hrange⟩, rfl⟩ := h
  refine ⟨?_, rfl, rfl, hrange⟩
  -- Every part is what was read of it, and nothing is left at the end.
  rw [after?_eq_some_iff.mp h1, (of_takeWord? h2).1, after?_eq_some_iff.mp h3, (of_takeWord? h4).1,
    after?_eq_some_iff.mp h5, (of_takeWord? h6).1, after?_eq_some_iff.mp h7, append_of_span h8,
    after?_eq_some_iff.mp h9, append_of_span h10, ← Base64.encode_of_decodeUnpadded? hsalt,
    ← Base64.encode_of_decodeUnpadded? htag, List.append_nil]
  rfl

/-! ## Whole texts -/

theorem read?_eq (s : List Char) :
    read? s = (do
      let (name, rest) := (← after? "$" s).span (· ≠ '$')
      let variant ← variant? name
      let (version, rest) ←
        match after? "$v=" rest with
        | some rest => takeWord? rest
        | none => some (16, rest)
      readBody? variant version rest) := rfl

/-- The text spells the hash; one of the first version may come without its version. -/
inductive Writes (e : Encoded) (s : List Char) : Prop where
  | versioned (number : e.parameters.version < 0x100000000)
      (spelt : s = "$".toList ++ ((variantName e.parameters.variant).toList ++
        ("$v=".toList ++ (Nat.toDigits 10 e.parameters.version ++ e.body))))
  | unversioned (first : e.parameters.version = 16)
      (spelt : s = "$".toList ++ ((variantName e.parameters.variant).toList ++ e.body))

theorem span_variantName (v : Argon2.Variant) {mark : String} {cs : List Char}
    (hm : mark.toList = '$' :: cs) (rest : List Char) :
    ((variantName v).toList ++ (mark.toList ++ rest)).span (· ≠ '$') =
      ((variantName v).toList, mark.toList ++ rest) := by
  rw [hm]
  cases v <;> rfl

theorem read?_of_writes {e : Encoded} {s : List Char} (writes : e.Writes s) (range : e.inRange) :
    read? s = some e := by
  rw [read?_eq]
  cases writes with
  | versioned number spelt =>
    rw [spelt]
    refine Option.bind_eq_some_iff.mpr ⟨_, after?_append _ _, ?_⟩
    rw [span_variantName _ rfl]
    refine Option.bind_eq_some_iff.mpr ⟨_, variant?_variantName _, ?_⟩
    dsimp only
    rw [after?_append]
    refine Option.bind_eq_some_iff.mpr ⟨_, takeWord?_append number ⟨'$', _, rfl, rfl⟩ _, ?_⟩
    exact readBody?_body range
  | unversioned first spelt =>
    -- The mark of the memory follows the name, and it is not the one of the version.
    have hbody := readBody?_body range
    rw [first] at hbody
    rw [spelt]
    refine Option.bind_eq_some_iff.mpr ⟨_, after?_append _ _, ?_⟩
    unfold body at hbody ⊢
    rw [span_variantName _ rfl]
    refine Option.bind_eq_some_iff.mpr ⟨_, variant?_variantName _, ?_⟩
    exact hbody

theorem read?_eq_some_iff {e : Encoded} {s : List Char} :
    read? s = some e ↔ e.Writes s ∧ e.inRange := by
  constructor
  · intro h
    rw [read?_eq] at h
    obtain ⟨named, hnamed, h⟩ := Option.bind_eq_some_iff.mp h
    obtain ⟨name, rest, hspan⟩ : ∃ name rest, named.span (· ≠ '$') = (name, rest) := ⟨_, _, rfl⟩
    rw [hspan] at h
    obtain ⟨variant, hvariant, h⟩ := Option.bind_eq_some_iff.mp h
    have hs : s = "$".toList ++ ((variantName variant).toList ++ rest) := by
      rw [after?_eq_some_iff.mp hnamed, append_of_span hspan, variant?_eq_some_iff.mp hvariant]
    dsimp only at h
    cases hafter : after? "$v=" rest with
    | some numbered =>
      rw [hafter] at h
      obtain ⟨⟨version, s'⟩, hversion, h⟩ := Option.bind_eq_some_iff.mp h
      obtain ⟨rfl, rfl, rfl, hrange⟩ := of_readBody? h
      obtain ⟨hword, hlt⟩ := of_takeWord? hversion
      rw [after?_eq_some_iff.mp hafter, hword] at hs
      exact ⟨.versioned hlt hs, hrange⟩
    | none =>
      rw [hafter] at h
      -- A hash that names no version is of the first one.
      obtain ⟨rfl, rfl, hfirst, hrange⟩ := of_readBody? h
      exact ⟨.unversioned hfirst hs, hrange⟩
  · rintro ⟨writes, range⟩
    exact read?_of_writes writes range

/-! ## The text form -/

theorem toList_text (e : Encoded) :
    e.text.toList = "$".toList ++ ((variantName e.parameters.variant).toList ++
      ("$v=".toList ++ (Nat.toDigits 10 e.parameters.version ++ e.body))) := by
  unfold text costs body
  simp only [String.toList_append, String.toList_ofList, Nat.toList_repr, List.append_assoc,
    toString]

theorem writes_text {e : Encoded} (version : e.parameters.version < 0x100000000) :
    e.Writes e.text.toList :=
  .versioned version (toList_text e)

/-- The parts of a spelling are literals, decimal numbers and Base64, which are all written in
ASCII, without the character of code zero. -/
theorem plain_of_mem_writes {e : Encoded} {s : List Char} (writes : e.Writes s) {c : Char}
    (h : c ∈ s) : 0 < c.toNat ∧ c.toNat < 0x80 := by
  -- The parts of a hash, each written in plain characters: names, numbers and Base64.
  have hliteral (literal : String)
      (hl : literal.toList.all fun c => 0 < c.toNat ∧ c.toNat < 0x80)
      (hc : c ∈ literal.toList) : 0 < c.toNat ∧ c.toNat < 0x80 :=
    List.all_iff_forall_prop.mp hl c hc
  have hname (hc : c ∈ (variantName e.parameters.variant).toList) :
      0 < c.toNat ∧ c.toNat < 0x80 := by
    refine hliteral _ ?_ hc
    cases e.parameters.variant <;> decide
  have hdigits (n : Nat) (hc : c ∈ Nat.toDigits 10 n) : 0 < c.toNat ∧ c.toNat < 0x80 := by
    have hd := Nat.isDigit_of_mem_toDigits (by omega) (by omega) hc
    rw [Char.isDigit, Bool.and_eq_true, decide_eq_true_eq, decide_eq_true_eq] at hd
    have hlow : 48 ≤ c.toNat := hd.1
    have hhigh : c.toNat ≤ 57 := hd.2
    omega
  have hbase (bytes : List UInt8) (hc : c ∈ Base64.encode bytes) :
      0 < c.toNat ∧ c.toNat < 0x80 := by
    have hv := Base64.isSome_value?_of_mem_encode hc
    refine ⟨Nat.pos_of_ne_zero fun hz => ?_, Base64.toNat_lt_of_value? hv⟩
    -- The character with the code zero is no symbol of Base64.
    have hnul : c = '\x00' := by
      rw [← Char.ofNat_toNat c, hz]
    rw [hnul] at hv
    exact absurd hv (by decide)
  have hbody (hc : c ∈ e.body) : 0 < c.toNat ∧ c.toNat < 0x80 := by
    unfold body at hc
    simp only [List.mem_append] at hc
    rcases hc with h | h | h | h | h | h | h | h | h | h
    · exact hliteral "$m=" (by decide) h
    · exact hdigits _ h
    · exact hliteral ",t=" (by decide) h
    · exact hdigits _ h
    · exact hliteral ",p=" (by decide) h
    · exact hdigits _ h
    · exact hliteral "$" (by decide) h
    · exact hbase _ h
    · exact hliteral "$" (by decide) h
    · exact hbase _ h
  cases writes with
  | versioned _ spelt =>
    rw [spelt] at h
    simp only [List.mem_append] at h
    rcases h with h | h | h | h | h
    · exact hliteral "$" (by decide) h
    · exact hname h
    · exact hliteral "$v=" (by decide) h
    · exact hdigits _ h
    · exact hbody h
  | unversioned _ spelt =>
    rw [spelt] at h
    simp only [List.mem_append] at h
    rcases h with h | h | h
    · exact hliteral "$" (by decide) h
    · exact hname h
    · exact hbody h

end Encoded

end TokenIssuer.Secret
