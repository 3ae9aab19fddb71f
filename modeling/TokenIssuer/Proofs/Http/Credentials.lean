import TokenIssuer.Http.Basic
import TokenIssuer.Proofs.Encoding.Base64
import TokenIssuer.Proofs.Encoding.Percent
import TokenIssuer.Proofs.Text

/-!
What an Authorization header holds, told without the reader: its scheme, what follows the scheme,
and the credentials in it. The reader answers every header value in exactly one of four ways.
-/

namespace TokenIssuer.Http.Basic

/-- The value of a header without the blanks around it; an absent header counts as an empty one. -/
def value (header : Option String) : List Char := Text.trim (header.getD "").toList

/-- The scheme of the header is Basic, in letters of either case. -/
def IsBasic (header : Option String) : Prop :=
  String.ofList (Text.lower (Text.cut ' ' (value header)).1) = "basic"

/-- What follows the scheme. -/
def encoded (header : Option String) : List Char :=
  Text.trim ((Text.cut ' ' (value header)).2.getD [])

/-- The header holds the credentials: what follows the scheme is the strict Base64 of a text in
UTF-8 that has a first colon with something before it, and both parts are form-encoded. -/
def Holds (header : Option String) (credentials : Credentials) : Prop :=
  IsBasic header ∧ ∃ bytes id secret,
    Base64.decodeStrict? (encoded header) = some bytes ∧
      Utf8.decode? bytes = some (id ++ ':' :: secret) ∧ id ≠ [] ∧ ':' ∉ id ∧
      credentials =
        ⟨String.ofList (Percent.decodeForm id), String.ofList (Percent.decodeForm secret)⟩

/-- The header carries the credentials as a client writes them: both parts form-encoded, with a
colon between them, and the whole in Base64. -/
def Carries (header : Option String) (credentials : Credentials) : Prop :=
  IsBasic header ∧ ∃ id secret,
    Percent.Spells id credentials.clientId.toList ∧
      Percent.Spells secret credentials.secret.toList ∧ ':' ∉ id ∧
      encoded header = Base64.encodePadded (Utf8.encode (id ++ ':' :: secret))

/-- What a client writes is read back, if there is an identifier. -/
theorem holds_of_carries {header : Option String} {credentials : Credentials}
    (h : Carries header credentials) (named : credentials.clientId ≠ "") :
    Holds header credentials := by
  obtain ⟨hbasic, id, secret, hid, hsecret, hcolon, hencoded⟩ := h
  refine ⟨hbasic, _, id, secret, ?_, Utf8.decode?_encode _, ?_, hcolon, ?_⟩
  · rw [hencoded, Base64.decodeStrict?_encodePadded]
  · intro hempty
    exact named (String.toList_eq_nil_iff.mp (Percent.eq_nil_of_spells hid hempty))
  · rw [Percent.decodeForm_of_spells hid, Percent.decodeForm_of_spells hsecret,
      String.ofList_toList, String.ofList_toList]

/-- What follows the scheme is written in ASCII. -/
def EncodedInAscii (header : Option String) : Prop := ∀ c ∈ encoded header, c.toNat < 0x80

theorem Holds.encodedInAscii {header : Option String} {credentials : Credentials}
    (h : Holds header credentials) : EncodedInAscii header := by
  obtain ⟨-, bytes, id, secret, hb, -⟩ := h
  exact Base64.ascii_of_decodeStrict? hb

theorem encodedInAscii_of_ascii {header : Option String}
    (h : ∀ c ∈ (header.getD "").toList, c.toNat < 0x80) : EncodedInAscii header :=
  fun c hc => h c (Text.mem_of_mem_trim (Text.mem_of_mem_cut (Text.mem_of_mem_trim hc)))

/-- A header without a value has no scheme. -/
theorem not_isBasic_of_blank {header : Option String} (h : value header = []) :
    ¬ IsBasic header := by
  unfold IsBasic
  rw [h]
  decide

theorem split?_eq_some_iff {decoded : List Char} {credentials : Credentials} :
    split? decoded = some credentials ↔
      ∃ id secret, decoded = id ++ ':' :: secret ∧ id ≠ [] ∧ ':' ∉ id ∧
        credentials =
          ⟨String.ofList (Percent.decodeForm id), String.ofList (Percent.decodeForm secret)⟩ := by
  unfold split?
  constructor
  · intro h
    split at h
    · exact absurd h (by simp)
    · exact absurd h (by simp)
    next id secret hne hcut =>
      obtain ⟨hd, hn⟩ := Text.cut_eq_some_iff.mp hcut
      exact ⟨id, secret, hd, hne, hn, (Option.some.inj h).symm⟩
  · rintro ⟨id, secret, hd, hne, hn, rfl⟩
    have hcut : Text.cut ':' decoded = (id, some secret) := Text.cut_eq_some_iff.mpr ⟨hd, hn⟩
    rw [hcut]
    cases id with
    | nil => exact absurd rfl hne
    | cons c cs => rfl

theorem decode_split_eq_some_iff {header : Option String} {credentials : Credentials}
    (hb : IsBasic header) :
    (decode? (encoded header)).bind split? = some credentials ↔ Holds header credentials := by
  unfold decode? Holds
  simp only [Option.bind_eq_some_iff, split?_eq_some_iff]
  constructor
  · rintro ⟨decoded, ⟨bytes, hbytes, hdecoded⟩, id, secret, rfl, h⟩
    exact ⟨hb, bytes, id, secret, hbytes, hdecoded, h⟩
  · rintro ⟨-, bytes, id, secret, hbytes, hdecoded, h⟩
    exact ⟨_, ⟨bytes, hbytes, hdecoded⟩, id, secret, rfl, h⟩

theorem read_of_not_isBasic {header : Option String} (h : ¬ IsBasic header) :
    read header = .ok none := by
  unfold read
  exact if_pos h

theorem read_of_foreign {header : Option String} (hb : IsBasic header)
    (hf : ¬ EncodedInAscii header) : read header = .error .notAscii := by
  unfold read
  refine (if_neg (not_not_intro hb)).trans (if_pos ?_)
  rw [List.any_eq_true]
  simp only [EncodedInAscii, Classical.not_forall, Nat.not_lt] at hf
  obtain ⟨c, hc, hn⟩ := hf
  exact ⟨c, hc, decide_eq_true hn⟩

theorem read_of_ascii {header : Option String} (hb : IsBasic header)
    (ha : EncodedInAscii header) :
    read header =
      match (decode? (encoded header)).bind split? with
      | some credentials => .ok (some credentials)
      | none => .error .malformed := by
  unfold read
  refine (if_neg (not_not_intro hb)).trans (if_neg ?_)
  rw [List.any_eq_true]
  rintro ⟨c, hc, hn⟩
  have hlt := ha c hc
  simp only [decide_eq_true_eq] at hn
  omega

theorem read_of_holds {header : Option String} {credentials : Credentials}
    (h : Holds header credentials) : read header = .ok (some credentials) := by
  rw [read_of_ascii h.1 h.encodedInAscii, (decode_split_eq_some_iff h.1).mpr h]

theorem read_of_malformed {header : Option String} (hb : IsBasic header)
    (ha : EncodedInAscii header) (hm : ∀ credentials, ¬ Holds header credentials) :
    read header = .error .malformed := by
  rw [read_of_ascii hb ha]
  cases hd : (decode? (encoded header)).bind split? with
  | none => rfl
  | some credentials => exact absurd ((decode_split_eq_some_iff hb).mp hd) (hm credentials)

/-- The four answers of the reader, each with the headers that get it. -/
theorem read_cases (header : Option String) :
    (¬ IsBasic header ∧ read header = .ok none) ∨
      (∃ credentials, Holds header credentials ∧ read header = .ok (some credentials)) ∨
      (IsBasic header ∧ EncodedInAscii header ∧ (∀ credentials, ¬ Holds header credentials) ∧
        read header = .error .malformed) ∨
      (IsBasic header ∧ ¬ EncodedInAscii header ∧ (∀ credentials, ¬ Holds header credentials) ∧
        read header = .error .notAscii) := by
  -- In the order in which the reader looks: the scheme, ASCII, then what is encoded.
  by_cases hb : IsBasic header
  · by_cases ha : EncodedInAscii header
    · by_cases hh : ∃ credentials, Holds header credentials
      · obtain ⟨credentials, hc⟩ := hh
        exact .inr (.inl ⟨credentials, hc, read_of_holds hc⟩)
      · have hm (credentials : Credentials) : ¬ Holds header credentials :=
          fun hc => hh ⟨credentials, hc⟩
        exact .inr (.inr (.inl ⟨hb, ha, hm, read_of_malformed hb ha hm⟩))
    · exact .inr (.inr (.inr ⟨hb, ha, fun _ hc => ha hc.encodedInAscii, read_of_foreign hb ha⟩))
  · exact .inl ⟨hb, read_of_not_isBasic hb⟩

theorem read_eq_none_iff {header : Option String} : read header = .ok none ↔ ¬ IsBasic header := by
  refine ⟨fun h hb => ?_, read_of_not_isBasic⟩
  rcases read_cases header with ⟨hn, -⟩ | ⟨_, -, hr⟩ | ⟨-, -, -, hr⟩ | ⟨-, -, -, hr⟩
  · exact hn hb
  all_goals rw [hr] at h; exact absurd h (by simp)

theorem read_eq_some_iff {header : Option String} {credentials : Credentials} :
    read header = .ok (some credentials) ↔ Holds header credentials := by
  refine ⟨fun h => ?_, read_of_holds⟩
  rcases read_cases header with ⟨-, hr⟩ | ⟨held, hh, hr⟩ | ⟨-, -, -, hr⟩ | ⟨-, -, -, hr⟩
  · rw [hr] at h; exact absurd h (by simp)
  · rw [hr] at h
    cases h
    exact hh
  all_goals rw [hr] at h; exact absurd h (by simp)

/-- The reader fails in another way than by malformed credentials only on what is not ASCII. -/
theorem read_eq_notAscii_iff {header : Option String} :
    read header = .error .notAscii ↔ IsBasic header ∧ ¬ EncodedInAscii header := by
  refine ⟨fun h => ?_, fun h => read_of_foreign h.1 h.2⟩
  rcases read_cases header with ⟨-, hr⟩ | ⟨_, -, hr⟩ | ⟨-, -, -, hr⟩ | ⟨hb, hf, -, -⟩
  · rw [hr] at h; exact absurd h (by simp)
  · rw [hr] at h; exact absurd h (by simp)
  · rw [hr] at h; exact absurd h (by simp)
  · exact ⟨hb, hf⟩

end TokenIssuer.Http.Basic
