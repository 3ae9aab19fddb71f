import TokenIssuer.Cli.Provisioning
import TokenIssuer.Proofs.Service.Recognition

/-!
Secrets that are provisioned: a secret is hashed, its hash is put on file for a client, and the
client presents the secret in the header of its requests. What is hashed are characters and what is
checked are bytes, and there is a greatest size for either.
-/

namespace TokenIssuer.Service.Recognition

open Http Store Authentication

variable {frame : Frame} {stores : Stores} {form : Form} {client : Client.Configuration}
  {hasher : Secret.Hasher} {salt : List UInt8} {secret stored : String}

/-- The bytes of the secret in UTF-8 are few enough to be checked. -/
def Presentable (secret : String) : Prop :=
  (Utf8.encode secret.toList).length ≤ Secret.Presented.maxSize

instance (secret : String) : Decidable (Presentable secret) :=
  inferInstanceAs (Decidable (_ ≤ _))

/-- The client is a confidential one with the hash on file, beside hashes that can be checked
against, and the stores can be reached. -/
structure OnFile (stores : Stores) (client : Client.Configuration) (secret stored : String) :
    Prop where
  clientsUp : .configurations ∉ stores.down
  secretsUp : .secrets ∉ stores.down
  registered : stores.clients.get? client.id = some client
  kind : client.kind = .confidentialClient
  filed : ∃ record ∈ stores.secrets.ownedBy client.id.text, record.hash = stored
  checkable : Checkable stores client.id.text (Utf8.encode secret.toList)

/-- Hashing on the command line makes the hash of the given secret and shows nothing else. -/
theorem report_of_hash (made : hasher.hash salt (.text secret) = .ok stored) (random : List UInt8) :
    Cli.report hasher ⟨random, salt⟩ (some secret) = .ok [("hashed_secret", stored)] := by
  have hhash : hasher.hash salt (.text ((some secret).getD (Cli.makeSecret random))) =
      .ok stored := made
  unfold Cli.report
  simp only [hhash]
  rfl

theorem verify_presented (made : hasher.hash salt (.text secret) = .ok stored) :
    Secret.verify (.bytes (Utf8.encode secret.toList)) stored =
      .ok (Decidable.decide (Presentable secret)) :=
  Secret.verify_of_hash made rfl

theorem proven_of_onFile (made : hasher.hash salt (.text secret) = .ok stored)
    (h : OnFile stores client secret stored) (presentable : Presentable secret) :
    Proven stores ⟨client.id.text, secret⟩ client where
  matched := by
    obtain ⟨record, hrecord, rfl⟩ := h.filed
    refine ⟨record, hrecord, ?_⟩
    rw [verify_presented made, decide_eq_true presentable]
  registered := by
    rw [Clients.find_id]
    exact h.registered
  kind := h.kind

/-- A secret of too many bytes proves nobody, whatever is on file. -/
theorem presentable_of_proven {credentials : Basic.Credentials}
    (h : Proven stores credentials client) : Presentable credentials.secret := by
  obtain ⟨record, -, hverify⟩ := h.matched
  by_cases hsize : Presentable credentials.secret
  · exact hsize
  · have hfits : (Secret.Presented.bytes (Utf8.encode credentials.secret.toList)).fits = false :=
      decide_eq_false hsize
    rw [Secret.verify_of_not_fits hfits] at hverify
    exact absurd hverify (by simp)

theorem ofRequest_of_onFile (frame : Frame) (made : hasher.hash salt (.text secret) = .ok stored)
    (h : OnFile stores client secret stored)
    (held : Basic.Holds (frame.request.header? "authorization") ⟨client.id.text, secret⟩)
    (single : form.lookup "client_id" = none) :
    (ofRequest frame (ofStores stores) form).result = .ok (.confidential client) ↔
      Presentable secret := by
  constructor
  · intro hresult
    obtain ⟨-, -, credentials, hheld, -, hproven⟩ := confidential_of_ofRequest hresult
    rw [holds_unique hheld held] at hproven
    exact presentable_of_proven hproven
  · intro hpresentable
    exact ofRequest_of_proven frame h.clientsUp h.secretsUp held single
      (proven_of_onFile made h hpresentable) h.checkable

/-- A secret that is hashed, on the command line as well, matches its hash as the characters that
were hashed. As the bytes of a request it matches exactly when they are few enough; and exactly then
a request recognises the client that has the hash on file, however its header spells the secret. -/
theorem provisioned_secret_recognised_iff (made : hasher.hash salt (.text secret) = .ok stored) :
    (∀ random, Cli.report hasher ⟨random, salt⟩ (some secret) = .ok [("hashed_secret", stored)]) ∧
      Secret.verify (.text secret) stored = .ok true ∧
      Secret.verify (.bytes (Utf8.encode secret.toList)) stored =
        .ok (Decidable.decide (Presentable secret)) ∧
      ∀ (stores : Stores) (client : Client.Configuration) (frame : Frame) (form : Form),
        OnFile stores client secret stored →
        Basic.Carries (frame.request.header? "authorization") ⟨client.id.text, secret⟩ →
        form.lookup "client_id" = none →
        ((ofRequest frame (ofStores stores) form).result = .ok (.confidential client) ↔
            Presentable secret) ∧
          ((ofConfidential frame (ofStores stores)).result = .ok (.confidential client) ↔
            Presentable secret) := by
  refine ⟨report_of_hash made, ?_, verify_presented made, ?_⟩
  · rw [Secret.verify_of_hash made rfl, Secret.Hasher.fits_of_hash made]
  · intro stores client frame form hfile hcarries hsingle
    have hheld := Basic.holds_of_carries hcarries client.id.notEmpty
    have hrequest := ofRequest_of_onFile frame made hfile hheld hsingle
    refine ⟨hrequest, ?_⟩
    rw [← ofRequest_eq_ofConfidential hheld.1 hsingle]
    exact hrequest

/-- The confidential demo client is recognised by its secret. -/
theorem provisioned_secret_recognised_demo :
    ∃ stored,
      Application.standard.hasher.hash (List.replicate 8 1) (.text Demo.confidentialSecret) =
          .ok stored ∧
        (ofRequest
            (.enter (Demo.request Demo.authorization "/token" "") Demo.fresh (.signedZero false))
            (ofStores (Demo.stores ⟨4⟩ stored)) []).result =
          .ok (.confidential Demo.confidential) := by
  have hfits : (Secret.Presented.text Demo.confidentialSecret).fits := by decide
  have hpresentable : Presentable Demo.confidentialSecret := by decide
  have hsalted : Crypto.Argon2.minSalt ≤ (List.replicate 8 (1 : UInt8)).length := by decide
  obtain ⟨stored, hmade⟩ := Application.standard.hasher.exists_hash hsalted hfits
  obtain ⟨-, -, hverify, hrecognised⟩ := provisioned_secret_recognised_iff hmade
  rw [decide_eq_true hpresentable] at hverify
  have hfile : OnFile (Demo.stores ⟨4⟩ stored) Demo.confidential Demo.confidentialSecret stored :=
    { clientsUp := List.not_mem_nil, secretsUp := List.not_mem_nil, registered := rfl, kind := rfl
      filed := ⟨⟨⟨4⟩, Demo.confidentialId, stored⟩, List.mem_singleton_self _, rfl⟩
      checkable := Demo.checkable_confidential hverify }
  have hplain (s : String) (hs : s.toList.all fun c => c ≠ '%' ∧ c ≠ '+') :
      Percent.Spells s.toList s.toList := Percent.spells_self (List.all_iff_forall_prop.mp hs)
  -- The header has both texts as they are, since neither needs an encoding.
  have hcarries : Basic.Carries (some Demo.authorization)
      ⟨Demo.confidentialId.text, Demo.confidentialSecret⟩ := by
    refine ⟨rfl, _, _, hplain "aardvark" (by decide), hplain "badger" (by decide), by decide, ?_⟩
    decide
  rw [← Demo.header_request Demo.authorization "/token" ""] at hcarries
  refine ⟨stored, hmade, ?_⟩
  exact (hrecognised _ Demo.confidential
    (.enter (Demo.request Demo.authorization "/token" "") Demo.fresh (.signedZero false)) [] hfile
    hcarries rfl).1.mpr hpresentable

/-- A secret of letters outside ASCII has fewer characters than bytes. -/
def accented : String := String.ofList (List.replicate 2049 'é')

theorem length_accented : accented.toList.length = 2049 := by
  unfold accented
  rw [String.toList_ofList, List.length_replicate]

theorem length_encode_accented : (Utf8.encode accented.toList).length = 4098 := by
  have hbytes : (String.utf8EncodeChar 'é').length = 2 := by decide
  unfold accented Utf8.encode
  rw [String.toList_ofList, List.length_flatMap, List.map_replicate, hbytes,
    List.sum_replicate_nat]

/-- A secret is hashed that matches its hash as characters and does not as bytes. -/
theorem accented_secret_matches_as_text_only :
    ∃ stored,
      Application.standard.hasher.hash (List.replicate 8 1) (.text accented) = .ok stored ∧
        Secret.verify (.text accented) stored = .ok true ∧
        Secret.verify (.bytes (Utf8.encode accented.toList)) stored = .ok false := by
  have hfits : (Secret.Presented.text accented).fits := by
    show Decidable.decide (accented.toList.length ≤ Secret.Presented.maxSize)
    rw [length_accented]
    decide
  have hlong : ¬ Presentable accented := by
    unfold Presentable
    rw [length_encode_accented]
    decide
  have hsalted : Crypto.Argon2.minSalt ≤ (List.replicate 8 (1 : UInt8)).length := by decide
  obtain ⟨stored, hmade⟩ := Application.standard.hasher.exists_hash hsalted hfits
  refine ⟨stored, hmade, ?_, ?_⟩
  · rw [Secret.verify_of_hash hmade rfl, hfits]
  · rw [verify_presented hmade, decide_eq_false hlong]

end TokenIssuer.Service.Recognition
