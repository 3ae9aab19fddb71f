import TokenIssuer.Secret.Hasher
import TokenIssuer.Proofs.Digest
import TokenIssuer.Proofs.Secret.StoredHash

/-! A hash that was made now is read back from its text, and the secret it was made of matches. -/

namespace TokenIssuer.Secret

open Crypto

/-- What of a text counts as a hash: all of it up to the first character of code zero. -/
def upToNul (stored : String) : List Char := stored.toList.takeWhile (· ≠ '\x00')

theorem Encoded.looksLikeHash_of_writes {e : Encoded} {stored : String}
    (writes : e.Writes (upToNul stored)) : looksLikeHash stored.toList = true := by
  have hwhole : upToNul stored ++ stored.toList.dropWhile (· ≠ '\x00') = stored.toList :=
    List.takeWhile_append_dropWhile
  rw [← hwhole]
  cases writes with
  | versioned _ spelt => rw [spelt]; cases e.parameters.variant <;> rfl
  | unversioned _ spelt => rw [spelt]; cases e.parameters.variant <;> rfl

/-- What can be a hash is checked against the one that it spells, or else part by part. -/
theorem verify_of_candidate {stored : String} {presented : Presented}
    (hash : looksLikeHash stored.toList = true) (fits : presented.fits)
    (ascii : ∀ c ∈ stored.toList, c.toNat < 0x80) :
    verify presented stored =
      match Encoded.read? (upToNul stored) with
      | some e => .ok (e.accepts presented.toBytes)
      | none => checkLayout stored.toList := by
  have hascii : stored.toList.any (fun c => decide (0x80 ≤ c.toNat)) = false := by
    rw [List.any_eq_false]
    intro c hc
    rw [decide_eq_true_eq]
    exact Nat.not_le.mpr (ascii c hc)
  unfold verify
  simp only [hash, fits, hascii, Bool.not_true, Bool.or_self]
  exact if_neg Bool.false_ne_true

theorem Encoded.verify_of_writes {e : Encoded} {stored : String}
    (writes : e.Writes (upToNul stored)) (range : e.inRange)
    (ascii : ∀ c ∈ stored.toList, c.toNat < 0x80) {presented : Presented} (fits : presented.fits) :
    verify presented stored = .ok (e.accepts presented.toBytes) := by
  rw [verify_of_candidate (looksLikeHash_of_writes writes) fits ascii, read?_of_writes writes range]

theorem Encoded.verify_text {e : Encoded} (range : e.inRange)
    (version : e.parameters.version < 0x100000000) {presented : Presented} (fits : presented.fits) :
    verify presented e.text = .ok (e.accepts presented.toBytes) := by
  have hwrites := writes_text version
  have hwhole : upToNul e.text = e.text.toList := by
    unfold upToNul
    rw [List.takeWhile_eq_self_iff]
    intro c hc
    have hp := plain_of_mem_writes hwrites hc
    rw [decide_eq_true_eq]
    rintro rfl
    exact absurd hp.1 (by decide)
  exact verify_of_writes (hwhole ▸ hwrites) range
    (fun c hc => (plain_of_mem_writes hwrites hc).2) fits

/-! ## Hashes that are made -/

namespace Hasher

variable {h : Hasher} {salt : List UInt8} {secret presented : Presented} {stored : String}

theorem hash_eq_ok_iff :
    h.hash salt secret = .ok stored ↔
      secret.fits ∧ Argon2.minSalt ≤ salt.length ∧ stored = (h.encode salt secret).text := by
  unfold hash
  split
  next hlarge =>
    rw [Bool.not_eq_true'] at hlarge
    rw [hlarge]
    exact iff_of_false (by simp) (by simp)
  next hfits =>
    rw [Bool.not_eq_true', Bool.not_eq_false] at hfits
    split
    next hshort => exact iff_of_false (by simp) fun hall => absurd hall.2.1 (by omega)
    next hlong =>
      rw [Except.ok.injEq]
      exact ⟨fun hstored => ⟨hfits, Nat.not_lt.mp hlong, hstored.symm⟩, fun hall => hall.2.2.symm⟩

theorem exists_hash (h : Hasher) (salted : Argon2.minSalt ≤ salt.length) (fits : secret.fits) :
    ∃ stored, h.hash salt secret = .ok stored :=
  ⟨_, hash_eq_ok_iff.mpr ⟨fits, salted, rfl⟩⟩

theorem fits_of_hash (made : h.hash salt secret = .ok stored) : secret.fits :=
  (hash_eq_ok_iff.mp made).1

theorem length_tag_encode (h : Hasher) (salt : List UInt8) (secret : Presented) :
    (h.encode salt secret).tag.length = tagSize :=
  Argon2.length_hash (by decide : tagSize ≤ 64) _ _ _

theorem inRange_encode (h : Hasher) (salted : Argon2.minSalt ≤ salt.length)
    (secret : Presented) : (h.encode salt secret).inRange := by
  have hsalt : (h.encode salt secret).salt = salt := rfl
  have hlimits : (h.encode salt secret).parameters.inLimits = true := h.inLimits
  rw [Encoded.inRange, length_tag_encode, hsalt, hlimits, decide_eq_true salted]
  rfl

end Hasher

/-- Nothing matches a text that is no hash. -/
theorem verify_of_no_hash {stored : String} (h : looksLikeHash stored.toList = false)
    (presented : Presented) : verify presented stored = .ok false := by
  unfold verify
  simp only [h, Bool.not_false, Bool.true_or, if_true]

/-- What is too large matches nothing. -/
theorem verify_of_not_fits {presented : Presented} (h : presented.fits = false)
    (stored : String) : verify presented stored = .ok false := by
  unfold verify
  rw [h]
  simp

/-- A secret matches the hash that was made of it as long as it is presented in a form that is not
too large. As bytes it may be larger than the characters were. -/
theorem verify_of_hash {h : Hasher} {salt : List UInt8} {secret presented : Presented}
    {stored : String} (made : h.hash salt secret = .ok stored)
    (same : presented.toBytes = secret.toBytes) :
    verify presented stored = .ok presented.fits := by
  obtain ⟨-, hsalted, rfl⟩ := Hasher.hash_eq_ok_iff.mp made
  cases hfits : presented.fits with
  | false => exact verify_of_not_fits hfits _
  | true =>
    rw [Encoded.verify_text (h.inRange_encode hsalted secret) (by decide : 19 < 0x100000000) hfits]
    -- The tag is as long as it was asked to be, so it is asked for again in the check.
    have htag : Argon2.hash (h.encode salt secret).parameters Hasher.tagSize secret.toBytes salt =
        (h.encode salt secret).tag := rfl
    rw [Encoded.accepts, Hasher.length_tag_encode, same]
    exact congrArg Except.ok (beq_iff_eq.mpr htag)

end TokenIssuer.Secret
