import TokenIssuer.Proofs.Authentication
import TokenIssuer.Proofs.Demo

/-!
Clients with several secrets on file. Any of them proves the client, whatever the order in which
they were saved; and whom a secret proves is told by the record it stands in.
-/

namespace TokenIssuer.Authentication

open Store

variable {presented : List UInt8} {records : List Store.Secret} {record : Store.Secret}
  {stores : Stores} {clientId : String} {principal : Client.Principal}

/-! ## The order of the secrets -/

theorem authenticate_eq_some_iff (checkable : Checkable stores clientId presented)
    (clientsUp : .configurations ∉ stores.down) (secretsUp : .secrets ∉ stores.down)
    (principal : Client.Principal) :
    (authenticate (ofStores stores) clientId presented).result = .ok (some principal) ↔
      ∃ client, Proves stores clientId presented client ∧ principal = .confidential client := by
  constructor
  · intro h
    exact (proves_of_authenticate h).2.2
  · rintro ⟨client, proves, rfl⟩
    rcases authenticate_of_checkable clientsUp secretsUp checkable with
      ⟨other, h, hresult⟩ | ⟨-, hnobody⟩
    · rw [hresult, Option.some.inj (h.registered.symm.trans proves.registered)]
    · exact absurd proves (hnobody client)

theorem authenticate_returns (checkable : Checkable stores clientId presented)
    (clientsUp : .configurations ∉ stores.down) (secretsUp : .secrets ∉ stores.down) :
    ∃ found, (authenticate (ofStores stores) clientId presented).result = .ok found := by
  rcases authenticate_of_checkable clientsUp secretsUp checkable with ⟨_, _, h⟩ | ⟨h, _⟩
  · exact ⟨_, h⟩
  · exact ⟨_, h⟩

/-- The client has the same secrets on file in both tables, in whatever order. -/
def SameSecrets (clientId : String) (secrets other : Secrets) : Prop :=
  ∀ record, record ∈ secrets.ownedBy clientId ↔ record ∈ other.ownedBy clientId

theorem Proves.of_sameSecrets {client : Client.Configuration} {secrets other : Secrets}
    (same : SameSecrets clientId secrets other)
    (h : Proves { stores with secrets } clientId presented client) :
    Proves { stores with secrets := other } clientId presented client := by
  obtain ⟨record, hmem, hv⟩ := h.matched
  exact ⟨⟨record, (same record).mp hmem, hv⟩, h.registered, h.kind⟩

theorem authenticate_of_sameSecrets {other : Secrets} (clientsUp : .configurations ∉ stores.down)
    (secretsUp : .secrets ∉ stores.down) (checkable : Checkable stores clientId presented)
    (same : SameSecrets clientId stores.secrets other) :
    (authenticate (ofStores { stores with secrets := other }) clientId presented).result =
      (authenticate (ofStores stores) clientId presented).result := by
  have hcheckable : Checkable { stores with secrets := other } clientId presented :=
    fun record hmem => checkable record ((same record).mpr hmem)
  obtain ⟨found, hfound⟩ := authenticate_returns checkable clientsUp secretsUp
  obtain ⟨found', hfound'⟩ := authenticate_returns hcheckable clientsUp secretsUp
  -- Both find somebody or nobody, and whoever is found by one of them is found by the other.
  have hsame : found' = found := by
    refine Option.ext fun principal => ?_
    have hiff := authenticate_eq_some_iff checkable clientsUp secretsUp principal
    have hiff' := authenticate_eq_some_iff hcheckable clientsUp secretsUp principal
    rw [hfound, Except.ok.injEq] at hiff
    rw [hfound', Except.ok.injEq] at hiff'
    rw [hiff, hiff']
    constructor
    · rintro ⟨client, h, rfl⟩
      exact ⟨client, h.of_sameSecrets fun record => (same record).symm, rfl⟩
    · rintro ⟨client, h, rfl⟩
      exact ⟨client, h.of_sameSecrets same, rfl⟩
  rw [hfound, hfound', hsame]

/-- Saves in another order, and other saves for other clients, leave the client its secrets. -/
theorem sameSecrets_of_perm {saves other : List Store.Secret} (ids : (saves.map Secret.id).Nodup)
    (ids' : (other.map Secret.id).Nodup)
    (perm : (saves.filter fun s => s.owner.text = clientId).Perm
      (other.filter fun s => s.owner.text = clientId)) :
    SameSecrets clientId (.ofRows saves) (.ofRows other) := by
  intro record
  unfold Secrets.ownedBy Table.select
  rw [Table.rows_ofRows ids, Table.rows_ofRows ids']
  exact perm.mem_iff

/-! ## The owner of a record -/

/-- The directory whose secrets are looked up elsewhere. -/
def answering (stores : Stores) (answer : String → Except Unreachable (List Store.Secret)) :
    Directory :=
  { ofStores stores with findSecrets := answer }

theorem recognizeOwner_answering {answer : String → Except Unreachable (List Store.Secret)}
    (clientsUp : .configurations ∉ stores.down) (record : Store.Secret) :
    (recognizeOwner (answering stores answer) record).result =
      .ok ((stores.clients.get? record.owner).bind fun client =>
        if client.kind = .confidentialClient then some (.confidential client) else none) :=
  recognizeOwner_of_get (Stores.call_of_up clientsUp)

theorem authenticate_answering {answer : String → Except Unreachable (List Store.Secret)}
    (found : answer clientId = .ok records) :
    authenticate (answering stores answer) clientId presented =
      match firstMatch presented records with
      | .error fault => .quiet (.error (.check fault))
      | .ok none => .quiet (.ok none)
      | .ok (some record) => recognizeOwner (answering stores answer) record :=
  authenticate_of_found found presented

/-- The configuration on file for the owner of the first record that matches is that of a
confidential client. -/
structure ProvesFirst (stores : Stores) (records : List Store.Secret) (presented : List UInt8)
    (record : Store.Secret) (client : Client.Configuration) : Prop where
  first : ∃ before after, records = before ++ record :: after ∧
    (∀ r ∈ before, Secret.verify (.bytes presented) r.hash = .ok false) ∧
    Secret.verify (.bytes presented) record.hash = .ok true
  owned : client.id = record.owner
  registered : stores.clients.get? record.owner = some client
  kind : client.kind = .confidentialClient

/-- Whatever records are answered with, the one recognised is the owner of the first that
matches. -/
theorem authenticate_answering_eq_some_iff
    {answer : String → Except Unreachable (List Store.Secret)}
    (clientsUp : .configurations ∉ stores.down) (found : answer clientId = .ok records) :
    (authenticate (answering stores answer) clientId presented).result = .ok (some principal) ↔
      ∃ record client, ProvesFirst stores records presented record client ∧
        principal = .confidential client := by
  rw [authenticate_answering found]
  constructor
  · intro h
    cases hm : firstMatch presented records with
    | error fault => rw [hm] at h; exact absurd h (by simp [Outcome.quiet])
    | ok matched =>
      rw [hm] at h
      cases matched with
      | none => exact absurd h (by simp [Outcome.quiet])
      | some record =>
        simp only [recognizeOwner_answering clientsUp, Except.ok.injEq, Option.bind_eq_some_iff,
          Option.ite_none_right_eq_some, Option.some.injEq] at h
        obtain ⟨client, hclient, hkind, rfl⟩ := h
        exact ⟨record, client, ⟨firstMatch_eq_some_iff.mp hm, Table.key_of_get? hclient, hclient,
          hkind⟩, rfl⟩
  · rintro ⟨record, client, h, rfl⟩
    rw [firstMatch_eq_some_iff.mpr h.first]
    simp only [recognizeOwner_answering clientsUp]
    rw [h.registered, Option.bind_some, if_pos h.kind]

theorem authenticate_answering_returns
    {answer : String → Except Unreachable (List Store.Secret)}
    (clientsUp : .configurations ∉ stores.down) (found : answer clientId = .ok records)
    (h : ∀ r ∈ records, ∃ fits, Secret.verify (.bytes presented) r.hash = .ok fits) :
    ∃ found, (authenticate (answering stores answer) clientId presented).result = .ok found := by
  rw [authenticate_answering found]
  rcases firstMatch_of_checkable h with ⟨record, hm⟩ | ⟨hn, -⟩
  · simp only [hm]
    exact ⟨_, recognizeOwner_answering clientsUp record⟩
  · simp only [hn]
    exact ⟨none, rfl⟩

/-- With both stores at hand and every hash of a client fit to be checked against, a secret proves
the client when it matches any of them, in whatever order they were saved and whatever is on file
for others. When other records are answered with, the secret proves the owner of the first that
matches, whoever was asked for. -/
theorem any_secret_proves_client (clientsUp : .configurations ∉ stores.down)
    (secretsUp : .secrets ∉ stores.down) (checkable : Checkable stores clientId presented) :
    (∀ principal,
      (authenticate (ofStores stores) clientId presented).result = .ok (some principal) ↔
        ∃ client, Proves stores clientId presented client ∧ principal = .confidential client) ∧
    ((∀ client, ¬ Proves stores clientId presented client) →
      (authenticate (ofStores stores) clientId presented).result = .ok none) ∧
    (∀ other, SameSecrets clientId stores.secrets other →
      (authenticate (ofStores { stores with secrets := other }) clientId presented).result =
        (authenticate (ofStores stores) clientId presented).result) ∧
    (∀ saves other : List Store.Secret, stores.secrets = .ofRows saves →
      (saves.map Secret.id).Nodup → (other.map Secret.id).Nodup →
      (saves.filter fun s => s.owner.text = clientId).Perm
        (other.filter fun s => s.owner.text = clientId) →
      (authenticate (ofStores { stores with secrets := .ofRows other }) clientId presented).result =
        (authenticate (ofStores stores) clientId presented).result) ∧
    ∀ answer records, answer clientId = .ok records →
      (∀ principal,
        (authenticate (answering stores answer) clientId presented).result = .ok (some principal) ↔
          ∃ record client, ProvesFirst stores records presented record client ∧
            principal = .confidential client) ∧
      ((∀ r ∈ records, ∃ fits, Secret.verify (.bytes presented) r.hash = .ok fits) →
        ∃ found, (authenticate (answering stores answer) clientId presented).result = .ok found) ∧
      ∀ caller, answer caller = .ok records →
        authenticate (answering stores answer) caller presented =
          authenticate (answering stores answer) clientId presented := by
  refine ⟨authenticate_eq_some_iff checkable clientsUp secretsUp,
    fun hnobody => ?_,
    fun other same => authenticate_of_sameSecrets clientsUp secretsUp checkable same,
    fun saves other hsaves ids ids' perm => ?_,
    fun answer records found =>
      ⟨fun principal => authenticate_answering_eq_some_iff clientsUp found,
        authenticate_answering_returns clientsUp found, fun caller found' => ?_⟩⟩
  · rcases authenticate_of_checkable clientsUp secretsUp checkable with ⟨client, h, -⟩ | ⟨h, -⟩
    · exact absurd h (hnobody client)
    · exact h
  · have hsame : SameSecrets clientId stores.secrets (.ofRows other) := by
      rw [hsaves]
      exact sameSecrets_of_perm ids ids' perm
    exact authenticate_of_sameSecrets clientsUp secretsUp checkable hsame
  · rw [authenticate_answering found, authenticate_answering found']

/-- The demo client once more, with a text that is no hash on file besides its secret. -/
def rotating (hash : String) : List Store.Secret :=
  [⟨⟨5⟩, Demo.confidentialId, "unset"⟩, ⟨⟨4⟩, Demo.confidentialId, hash⟩]

theorem any_secret_proves_client_demo :
    ∃ hash,
      let stores := { Demo.stores ⟨4⟩ hash with secrets := .ofRows (rotating hash) }
      let other := { Demo.stores ⟨4⟩ hash with secrets := .ofRows (rotating hash).reverse }
      let secret := Utf8.encode Demo.confidentialSecret.toList
      .configurations ∉ stores.down ∧ .secrets ∉ stores.down ∧
      Checkable stores Demo.confidentialId.text secret ∧
      (authenticate (ofStores stores) Demo.confidentialId.text secret).result =
        .ok (some (.confidential Demo.confidential)) ∧
      (authenticate (ofStores other) Demo.confidentialId.text secret).result =
        .ok (some (.confidential Demo.confidential)) ∧
      (authenticate (answering stores fun _ => .ok (rotating hash)) "weasel" secret).result =
        .ok (some (.confidential Demo.confidential)) := by
  obtain ⟨hash, -, verified⟩ := Demo.startStores_standard
  let stores := { Demo.stores ⟨4⟩ hash with secrets := .ofRows (rotating hash) }
  have hdiffers : Secret.verify (.bytes (Utf8.encode Demo.confidentialSecret.toList)) "unset" =
      .ok false := Secret.verify_of_no_hash (by decide) _
  have hchecked : ∀ record ∈ rotating hash, ∃ fits, Secret.verify
      (.bytes (Utf8.encode Demo.confidentialSecret.toList)) record.hash = .ok fits := by
    unfold rotating
    rw [List.forall_mem_cons, List.forall_mem_singleton]
    exact ⟨⟨false, hdiffers⟩, ⟨true, verified⟩⟩
  have hcheckable : Checkable stores Demo.confidentialId.text
      (Utf8.encode Demo.confidentialSecret.toList) :=
    fun record hmem => hchecked record (List.mem_filter.mp hmem).1
  have hproves : Proves stores Demo.confidentialId.text
      (Utf8.encode Demo.confidentialSecret.toList) Demo.confidential :=
    ⟨⟨_, List.mem_cons_of_mem _ (List.mem_singleton_self _), verified⟩, rfl, rfl⟩
  -- The record before the one that fits has a text that is no hash.
  have hfirst : ProvesFirst stores (rotating hash)
      (Utf8.encode Demo.confidentialSecret.toList) ⟨⟨4⟩, Demo.confidentialId, hash⟩
      Demo.confidential :=
    ⟨⟨[_], [], rfl, List.forall_mem_singleton.mpr hdiffers, verified⟩, rfl, rfl, rfl⟩
  have hclients : .configurations ∉ stores.down := List.not_mem_nil
  have hsecrets : .secrets ∉ stores.down := List.not_mem_nil
  obtain ⟨hiff, -, -, hperm, hanswer⟩ := any_secret_proves_client hclients hsecrets hcheckable
  have hrecognized := (hiff _).mpr ⟨_, hproves, rfl⟩
  have hids : ((rotating hash).map Secret.id).Nodup :=
    show ([⟨5⟩, ⟨4⟩] : List Uuid).Nodup by decide
  refine ⟨hash, hclients, hsecrets, hcheckable, hrecognized, ?_,
    ((hanswer (fun _ => .ok (rotating hash)) _ rfl).1 _).mpr ⟨_, _, hfirst, rfl⟩⟩
  have hreverse : (rotating hash).Perm (rotating hash).reverse := (List.reverse_perm _).symm
  exact (hperm (rotating hash) (rotating hash).reverse rfl hids
    ((hreverse.map _).nodup_iff.mp hids) (hreverse.filter _)).trans hrecognized

end TokenIssuer.Authentication
