import Mathlib.Data.List.Forall2
import TokenIssuer.Proofs.Demo
import TokenIssuer.Proofs.Http.Form.Encoding

/-!
What is lost between the bytes that a client spells out and the texts that are read. A body, or the
text under the Base64 of a header, is refused unless it is UTF-8. The bytes spelled out in it are
not looked at again, and what is not UTF-8 among them is marked with U+FFFD.
-/

namespace TokenIssuer.Percent

/-- The bytes that a form-encoded text stands for. -/
def formBytes (raw : List Char) : List UInt8 := bytes (plusToSpace raw)

/-- What becomes of the bytes in a text that is read of a form-encoded one: it keeps them exactly if
they are well formed, and has a mark otherwise. -/
structure Decodes (raw text : List Char) : Prop where
  kept : Utf8.encode text = formBytes raw ↔ Utf8.WellFormed (formBytes raw)
  marked (illFormed : ¬ Utf8.WellFormed (formBytes raw)) : '\uFFFD' ∈ text

theorem decodes_decodeForm (raw : List Char) :
    Decodes raw (String.ofList (decodeForm raw)).toList := by
  rw [String.toList_ofList]
  exact ⟨Utf8.encode_decodeLossy_iff, Utf8.replacement_mem_decodeLossy⟩

/-- Texts that are read alike stand for the same bytes, or else the text that is read of both has a
mark. -/
theorem eq_or_marked {raw other text : List Char} (one : Decodes raw text)
    (also : Decodes other text) : formBytes raw = formBytes other ∨ '\uFFFD' ∈ text := by
  -- Bytes that are kept can be told from the text.
  by_cases hraw : Utf8.WellFormed (formBytes raw)
  · by_cases hother : Utf8.WellFormed (formBytes other)
    · left
      calc
        formBytes raw = Utf8.encode text := (one.kept.mpr hraw).symm
        _ = formBytes other := also.kept.mpr hother
    · exact .inr (also.marked hother)
  · exact .inr (one.marked hraw)

end TokenIssuer.Percent

namespace TokenIssuer.Http

namespace Form

/-- What stands in a segment before the first equals sign, and after it. -/
def rawName (segment : List Char) : List Char := (Text.cut '=' segment).1

def rawValue (segment : List Char) : List Char := (Text.cut '=' segment).2.getD []

/-- The name and the value of the field are read of the segment. -/
structure DecodesField (segment : List Char) (field : String × String) : Prop where
  name : Percent.Decodes (rawName segment) field.1.toList
  value : Percent.Decodes (rawValue segment) field.2.toList

theorem decodesField_field (segment : List Char) : DecodesField segment (field segment) :=
  ⟨Percent.decodes_decodeForm (rawName segment), Percent.decodes_decodeForm (rawValue segment)⟩

/-- A form that is read comes from a text, field by field. -/
theorem decodesField_of_read {r : Request} {form : Form} (h : read r = .ok form) :
    ∃ text, r.body = Utf8.encode text ∧ List.Forall₂ DecodesField (segments text) form := by
  have htype : requestType r = expectedType.toList := by
    apply Classical.byContradiction
    intro hother
    rw [read_of_otherType hother] at h
    cases h
  cases hbody : Utf8.decode? r.body with
  | none =>
    rw [read_of_type htype, decode, hbody] at h
    cases h
  | some text =>
    have hencode := Utf8.decode?_eq_some_iff.mp hbody
    have hreads := reads_of_type htype hencode
    -- A form is only read if no name is given twice, so each field is kept.
    have hnodup : (names text).Nodup := by
      apply Classical.byContradiction
      intro hrepeats
      obtain ⟨name, hname⟩ := hreads.repeats.mpr hrepeats
      rw [hname] at h
      cases h
    rw [hreads.fields hnodup] at h
    cases h
    refine ⟨text, hencode, ?_⟩
    rw [List.forall₂_map_right_iff, List.forall₂_same]
    exact fun segment _ => decodesField_field segment

end Form

namespace Basic

/-- The identifier and the secret are read of what stands before and after the first colon. -/
structure DecodesCredentials (id secret : List Char) (credentials : Credentials) : Prop where
  clientId : Percent.Decodes id credentials.clientId.toList
  secret : Percent.Decodes secret credentials.secret.toList

/-- The header has the two parts: the scheme is Basic, and under the strict Base64 behind it is a
text in UTF-8 with a colon and something before it. -/
def HasParts (header : Option String) (id secret : List Char) : Prop :=
  IsBasic header ∧ id ≠ [] ∧ ':' ∉ id ∧
    Base64.decodeStrict? (encoded header) = some (Utf8.encode (id ++ ':' :: secret))

/-- Credentials are read of exactly the headers that have two parts, whatever bytes these spell
out. -/
theorem read_eq_some_iff_hasParts {header : Option String} {credentials : Credentials} :
    read header = .ok (some credentials) ↔
      ∃ id secret, HasParts header id secret ∧ credentials =
        ⟨String.ofList (Percent.decodeForm id), String.ofList (Percent.decodeForm secret)⟩ := by
  rw [read_eq_some_iff]
  unfold Holds HasParts
  constructor
  · rintro ⟨hbasic, bytes, id, secret, hbytes, hdecoded, hne, hcolon, hread⟩
    rw [Utf8.decode?_eq_some_iff.mp hdecoded] at hbytes
    exact ⟨id, secret, ⟨hbasic, hne, hcolon, hbytes⟩, hread⟩
  · rintro ⟨id, secret, ⟨hbasic, hne, hcolon, hbytes⟩, hread⟩
    exact ⟨hbasic, _, id, secret, hbytes, Utf8.decode?_encode _, hne, hcolon, hread⟩

theorem decodesCredentials_of_read {header : Option String} {credentials : Credentials}
    (h : read header = .ok (some credentials)) :
    ∃ id secret, HasParts header id secret ∧ DecodesCredentials id secret credentials := by
  obtain ⟨id, secret, hparts, rfl⟩ := read_eq_some_iff_hasParts.mp h
  exact ⟨id, secret, hparts, Percent.decodes_decodeForm id, Percent.decodes_decodeForm secret⟩

end Basic

/-- Every name, value, identifier and secret that is read of a request keeps the bytes its client
spelled out if these are well formed; texts that are read alike come from the same bytes then. Bytes
that are not well formed are marked instead. Neither the form nor the header is refused for them:
the form is refused for the bytes of the body itself, the header for lacking one of its parts. -/
theorem decoding_keeps_well_formed_bytes (r : Request) :
    (∀ form, Form.read r = .ok form →
        ∃ text, r.body = Utf8.encode text ∧
          List.Forall₂ Form.DecodesField (Form.segments text) form) ∧
      (∀ credentials, Basic.read (r.header? "authorization") = .ok (some credentials) →
        ∃ id secret, Basic.HasParts (r.header? "authorization") id secret ∧
          Basic.DecodesCredentials id secret credentials) ∧
      (∀ raw other text, Percent.Decodes raw text → Percent.Decodes other text →
        Percent.formBytes raw = Percent.formBytes other ∨ '\uFFFD' ∈ text) ∧
      (Form.requestType r = Form.expectedType.toList →
        (Form.read r = .error .notText ↔ ¬ Utf8.WellFormed r.body)) ∧
      ((∃ credentials, Basic.read (r.header? "authorization") = .ok (some credentials)) ↔
        ∃ id secret, Basic.HasParts (r.header? "authorization") id secret) := by
  refine ⟨fun form => Form.decodesField_of_read, fun credentials =>
    Basic.decodesCredentials_of_read, fun raw other text => Percent.eq_or_marked,
    Form.read_eq_notText_iff, ?_⟩
  constructor
  · rintro ⟨credentials, hread⟩
    obtain ⟨id, secret, hparts, -⟩ := Basic.read_eq_some_iff_hasParts.mp hread
    exact ⟨id, secret, hparts⟩
  · rintro ⟨id, secret, hparts⟩
    exact ⟨_, Basic.read_eq_some_iff_hasParts.mpr ⟨id, secret, hparts, rfl⟩⟩

theorem decoding_keeps_well_formed_bytes_demo :
    Form.read (Demo.request Demo.authorization "/token" "username=%C3%A9") =
        .ok [("username", "é")] ∧
      Percent.formBytes "%C3%A9".toList = Utf8.encode "é".toList ∧
      ∃ id secret, Basic.HasParts (some Demo.authorization) id secret ∧
        Utf8.encode Demo.confidentialSecret.toList = Percent.formBytes secret := by
  obtain ⟨hform, hheader, -⟩ := decoding_keeps_well_formed_bytes
    (Demo.request Demo.authorization "/token" "username=%C3%A9")
  have hread : Form.read (Demo.request Demo.authorization "/token" "username=%C3%A9") =
      .ok [("username", "é")] := by
    rw [Demo.read_request]
    rfl
  refine ⟨hread, ?_, ?_⟩
  · obtain ⟨text, hbody, hfields⟩ := hform _ hread
    rw [← Utf8.encode_injective hbody] at hfields
    cases hfields with
    | cons field _ => exact (field.value.kept.mpr ⟨"é".toList, by rfl⟩).symm
  · rw [Demo.header_request] at hheader
    obtain ⟨id, secret, hparts, hdecodes⟩ :=
      hheader _ (Basic.read_eq_some_iff.mpr Demo.holds_authorization)
    refine ⟨id, secret, hparts, hdecodes.secret.kept.mpr ?_⟩
    -- There is no mark in the secret.
    apply Classical.byContradiction
    intro illFormed
    exact absurd (hdecodes.secret.marked illFormed) (by decide)

/-- A username, an identifier and what differs from them in one byte are read as the same: neither
byte is UTF-8, and both are marked. -/
theorem ill_formed_bytes_are_conflated :
    Percent.formBytes "%FF".toList = [0xFF] ∧ Percent.formBytes "%FE".toList = [0xFE] ∧
      ¬ Utf8.WellFormed [0xFF] ∧ ¬ Utf8.WellFormed [0xFE] ∧
      Form.read (Demo.request Demo.authorization "/token" "username=%FF") =
        .ok [("username", "\uFFFD")] ∧
      Form.read (Demo.request Demo.authorization "/token" "username=%FE") =
        .ok [("username", "\uFFFD")] ∧
      Basic.HasParts (some "Basic JUZGOng=") "%FF".toList "x".toList ∧
      Basic.HasParts (some "Basic JUZFOng=") "%FE".toList "x".toList ∧
      Basic.read (some "Basic JUZGOng=") = .ok (some ⟨"\uFFFD", "x"⟩) ∧
      Basic.read (some "Basic JUZFOng=") = .ok (some ⟨"\uFFFD", "x"⟩) := by
  have hread (body : String) := Demo.read_request Demo.authorization "/token" body
  refine ⟨rfl, rfl, Utf8.decode?_eq_none_iff.mp rfl, Utf8.decode?_eq_none_iff.mp rfl, ?_, ?_,
    ⟨?_, by decide, by decide, ?_⟩, ⟨?_, by decide, by decide, ?_⟩, ?_, ?_⟩
  · rw [hread]
    rfl
  · rw [hread]
    rfl
  all_goals rfl

end TokenIssuer.Http
