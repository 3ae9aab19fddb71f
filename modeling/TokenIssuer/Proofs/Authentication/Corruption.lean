import TokenIssuer.Proofs.Authentication
import TokenIssuer.Proofs.Demo
import TokenIssuer.Proofs.Secret.Corruption

/-!
Clients with texts on file that are no hashes. Most of these are passed over; one that makes a check
fail ends the recognition when it is met before a match.
-/

namespace TokenIssuer.Authentication

open Store

variable {stores : Stores} {clientId : String} {presented : List UInt8}
  {records : List Store.Secret}

/-- A text that makes every check fail is met among the records, and those before it differ. -/
def Interrupted (presented : List UInt8) (records : List Store.Secret) : Prop :=
  ∃ before record after, records = before ++ record :: after ∧
    (∀ r ∈ before, Secret.verify (.bytes presented) r.hash = .ok false) ∧
    (Secret.Presented.bytes presented).fits ∧ ∃ fault, Secret.Raises record.hash fault

theorem interrupted_iff :
    Interrupted presented records ↔ ∃ fault, firstMatch presented records = .error fault := by
  simp only [firstMatch_eq_error_iff, Secret.verify_eq_error_iff, Interrupted]
  constructor
  · rintro ⟨before, record, after, hsplit, hbefore, hfits, fault, hraises⟩
    exact ⟨fault, before, record, after, hsplit, hbefore, hfits, hraises⟩
  · rintro ⟨fault, before, record, after, hsplit, hbefore, hfits, hraises⟩
    exact ⟨before, record, after, hsplit, hbefore, hfits, fault, hraises⟩

theorem not_interrupted_of_firstMatch {found : Option Store.Secret}
    (h : firstMatch presented records = .ok found) : ¬ Interrupted presented records := by
  rw [interrupted_iff, h]
  simp

theorem authenticate_answers_iff (clientsUp : .configurations ∉ stores.down)
    (secretsUp : .secrets ∉ stores.down) :
    (∃ found, (authenticate (ofStores stores) clientId presented).result = .ok found) ↔
      ¬ Interrupted presented (stores.secrets.ownedBy clientId) := by
  rw [authenticate_of_up secretsUp]
  cases search presented (stores.secrets.ownedBy clientId) with
  | nothing _ found =>
    have hwhole := not_interrupted_of_firstMatch found
    rw [found]
    exact iff_of_true ⟨none, rfl⟩ hwhole
  | matched _ _ _ found =>
    have hmem := (matches_of_firstMatch found).1
    have hwhole := not_interrupted_of_firstMatch found
    rw [found]
    exact iff_of_true ⟨_, recognizeOwner_result clientsUp hmem⟩ hwhole
  | broken _ _ _ found =>
    have hinterrupted : Interrupted presented _ := interrupted_iff.mpr ⟨_, found⟩
    rw [found]
    exact iff_of_false (by simp [Outcome.quiet]) (not_not_intro hinterrupted)

/-- Unless it is interrupted, recognition finds the client that a secret proves, whatever else is on
file for it. -/
theorem authenticate_of_not_interrupted {client : Client.Configuration}
    (clientsUp : .configurations ∉ stores.down) (secretsUp : .secrets ∉ stores.down)
    (h : ¬ Interrupted presented (stores.secrets.ownedBy clientId))
    (proves : Proves stores clientId presented client) :
    (authenticate (ofStores stores) clientId presented).result =
      .ok (some (.confidential client)) := by
  obtain ⟨secret, hmem, hmatch⟩ := proves.matched
  rw [authenticate_of_up secretsUp]
  cases search presented (stores.secrets.ownedBy clientId) with
  | nothing differ found =>
    rw [differ secret hmem] at hmatch
    cases hmatch
  | matched _ _ _ found =>
    have hfirst := (matches_of_firstMatch found).1
    rw [found]
    dsimp only
    rw [recognizeOwner_result clientsUp hfirst, proves.registered, Option.bind_some,
      if_pos proves.kind]
  | broken _ _ _ found => exact absurd (interrupted_iff.mpr ⟨_, found⟩) h

/-- A check fails without an answer on the texts that make every check fail, and on no others; and
nothing matches but what spells a hash. With both stores at hand recognition by a secret answers
unless it meets a text of the first kind before a match, and then finds exactly the client that the
secret proves. -/
theorem only_raising_hashes_interrupt (clientsUp : .configurations ∉ stores.down)
    (secretsUp : .secrets ∉ stores.down) :
    (∀ presented stored, (∃ answer, Secret.verify presented stored = .ok answer) ↔
      ¬ (presented.fits ∧ ∃ fault, Secret.Raises stored fault)) ∧
    (∀ presented stored, Secret.verify presented stored = .ok true ↔
      presented.fits ∧ (∀ c ∈ stored.toList, c.toNat < 0x80) ∧
        ∃ e, Secret.Spells stored e ∧ e.accepts presented.toBytes) ∧
    ∀ clientId presented,
      ((∃ found, (authenticate (ofStores stores) clientId presented).result = .ok found) ↔
        ¬ Interrupted presented (stores.secrets.ownedBy clientId)) ∧
      (¬ Interrupted presented (stores.secrets.ownedBy clientId) → ∀ principal,
        (authenticate (ofStores stores) clientId presented).result = .ok (some principal) ↔
          ∃ client, Proves stores clientId presented client ∧
            principal = .confidential client) := by
  refine ⟨fun presented stored => Secret.verify_answers_iff,
    fun presented stored => Secret.verify_eq_true_iff,
    fun clientId presented => ⟨authenticate_answers_iff clientsUp secretsUp,
      fun h principal => ⟨fun hresult => (proves_of_authenticate hresult).2.2, ?_⟩⟩⟩
  rintro ⟨client, proves, rfl⟩
  exact authenticate_of_not_interrupted clientsUp secretsUp h proves

/-- The stores of the demo clients with a text more on file for the confidential one, in front of
its secret. -/
def spoiltStores (text hash : String) : Stores :=
  { Demo.stores ⟨4⟩ hash with
    secrets := .ofRows [⟨⟨5⟩, Demo.confidentialId, text⟩, ⟨⟨4⟩, Demo.confidentialId, hash⟩] }

theorem proves_spoiltStores {text hash : String}
    (verified :
      Secret.verify (.bytes (Utf8.encode Demo.confidentialSecret.toList)) hash = .ok true) :
    Proves (spoiltStores text hash) Demo.confidentialId.text
      (Utf8.encode Demo.confidentialSecret.toList) Demo.confidential :=
  ⟨⟨_, List.mem_cons_of_mem _ (List.mem_singleton_self _), verified⟩, rfl, rfl⟩

/-- A hash without its tag is passed over. -/
theorem only_raising_hashes_interrupt_demo :
    ∃ hash, (authenticate (ofStores (spoiltStores "$argon2id$v=19$m=8,t=1,p=1$c2FsdHNhbHQ" hash))
      Demo.confidentialId.text (Utf8.encode Demo.confidentialSecret.toList)).result =
        .ok (some (.confidential Demo.confidential)) := by
  obtain ⟨hash, -, verified⟩ := Demo.startStores_standard
  let stores := spoiltStores "$argon2id$v=19$m=8,t=1,p=1$c2FsdHNhbHQ" hash
  have hdiffers : Secret.verify (.bytes (Utf8.encode Demo.confidentialSecret.toList))
      "$argon2id$v=19$m=8,t=1,p=1$c2FsdHNhbHQ" = .ok false := by decide
  have hfound : firstMatch (Utf8.encode Demo.confidentialSecret.toList)
      (stores.secrets.ownedBy Demo.confidentialId.text) =
        .ok (some ⟨⟨4⟩, Demo.confidentialId, hash⟩) :=
    firstMatch_eq_some_iff.mpr
      ⟨[_], [], rfl, List.forall_mem_singleton.mpr hdiffers, verified⟩
  have hclients : .configurations ∉ stores.down := List.not_mem_nil
  obtain ⟨-, -, hrecognizes⟩ := only_raising_hashes_interrupt hclients List.not_mem_nil
  exact ⟨hash, ((hrecognizes _ _).2 (not_interrupted_of_firstMatch hfound) _).mpr
    ⟨_, proves_spoiltStores verified, rfl⟩⟩

/-- A hash without salt and tag makes every check fail, so that the client is not recognised by the
secret that proves it; and a text matches that spells no hash, for what follows a character of code
zero. -/
theorem corrupt_hash_shuts_client_out :
    ∃ hash,
      let presented := Utf8.encode Demo.confidentialSecret.toList
      let stores := spoiltStores "$argon2id$v=19$m=8,t=1,p=1" hash
      Secret.verify (.bytes presented) "$argon2id$v=19$m=8,t=1,p=1" = .error .noSalt ∧
      Proves stores Demo.confidentialId.text presented Demo.confidential ∧
      (authenticate (ofStores stores) Demo.confidentialId.text presented).result =
        .error (.check .noSalt) ∧
      Secret.verify (.bytes presented) (hash ++ "\x00" ++ "x") = .ok true ∧
      ∀ e : Secret.Encoded, ¬ e.Writes (hash ++ "\x00" ++ "x").toList := by
  obtain ⟨hash, -, verified⟩ := Demo.startStores_standard
  have hraises : Secret.verify (.bytes (Utf8.encode Demo.confidentialSecret.toList))
      "$argon2id$v=19$m=8,t=1,p=1" = .error .noSalt := by decide
  have hascii : ∀ c ∈ "x".toList, c.toNat < 0x80 := List.forall_mem_singleton.mpr (by decide)
  refine ⟨hash, hraises, proves_spoiltStores verified, ?_,
    Secret.verify_append_nul hascii verified, Secret.not_writes_append_nul hash "x"⟩
  have hbroken : firstMatch (Utf8.encode Demo.confidentialSecret.toList)
      ((spoiltStores "$argon2id$v=19$m=8,t=1,p=1" hash).secrets.ownedBy
        Demo.confidentialId.text) = .error .noSalt :=
    firstMatch_of_error hraises
  rw [authenticate_of_up (List.not_mem_nil : Name.secrets ∉ (Demo.stores ⟨4⟩ hash).down), hbroken]
  rfl

end TokenIssuer.Authentication
