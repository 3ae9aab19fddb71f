import TokenIssuer.Authentication
import TokenIssuer.Proofs.Store

/-!
Recognition of clients against the contents of the stores: whom a secret and whom an identifier
alone identify, told without the order in which the secrets on file are tried.
-/

namespace TokenIssuer.Authentication

open Store

/-- Some secret on file for the client a text names matches the presented one. -/
def Matches (stores : Stores) (clientId : String) (presented : List UInt8) : Prop :=
  ∃ secret ∈ stores.secrets.ownedBy clientId,
    Secret.verify (.bytes presented) secret.hash = .ok true

/-- The presented secret can be checked against every hash on file for the client a text names. -/
def Checkable (stores : Stores) (clientId : String) (presented : List UInt8) : Prop :=
  ∀ secret ∈ stores.secrets.ownedBy clientId,
    ∃ fits, Secret.verify (.bytes presented) secret.hash = .ok fits

/-- The presented secret matches one on file, and the client is a confidential one. -/
structure Proves (stores : Stores) (clientId : String) (presented : List UInt8)
    (client : Client.Configuration) : Prop where
  matched : Matches stores clientId presented
  registered : stores.clients.find clientId = some client
  kind : client.kind = .confidentialClient

/-! ## The first match -/

section

variable {presented : List UInt8} {records before rest : List Store.Secret} {record : Store.Secret}
  {fault : Secret.Fault}

theorem firstMatch_of_false
    (h : Secret.verify (.bytes presented) record.hash = .ok false) :
    firstMatch presented (record :: rest) = firstMatch presented rest := by
  rw [firstMatch, h]
  rfl

/-- Records that differ are passed over. -/
theorem firstMatch_append
    (h : ∀ r ∈ before, Secret.verify (.bytes presented) r.hash = .ok false) :
    firstMatch presented (before ++ rest) = firstMatch presented rest := by
  induction before with
  | nil => rfl
  | cons first before ih =>
    obtain ⟨hfirst, hbefore⟩ := List.forall_mem_cons.mp h
    exact (firstMatch_of_false hfirst).trans (ih hbefore)

theorem firstMatch_of_true
    (h : Secret.verify (.bytes presented) record.hash = .ok true) :
    firstMatch presented (record :: rest) = .ok (some record) := by
  rw [firstMatch, h]
  rfl

theorem firstMatch_of_error
    (h : Secret.verify (.bytes presented) record.hash = .error fault) :
    firstMatch presented (record :: rest) = .error fault := by
  rw [firstMatch, h]
  rfl

/-- All records differ, or the first that does not decides. -/
inductive Search (presented : List UInt8) (records : List Store.Secret) : Prop where
  | nothing (differ : ∀ r ∈ records, Secret.verify (.bytes presented) r.hash = .ok false)
      (found : firstMatch presented records = .ok none)
  | matched {before after : List Store.Secret} {record : Store.Secret}
      (split : records = before ++ record :: after)
      (differ : ∀ r ∈ before, Secret.verify (.bytes presented) r.hash = .ok false)
      (fits : Secret.verify (.bytes presented) record.hash = .ok true)
      (found : firstMatch presented records = .ok (some record))
  | broken {before after : List Store.Secret} {record : Store.Secret} {fault : Secret.Fault}
      (split : records = before ++ record :: after)
      (differ : ∀ r ∈ before, Secret.verify (.bytes presented) r.hash = .ok false)
      (raises : Secret.verify (.bytes presented) record.hash = .error fault)
      (found : firstMatch presented records = .error fault)

theorem search (presented : List UInt8) (records : List Store.Secret) :
    Search presented records := by
  -- The induction is on the records: one that differs is put in front of what is found behind it.
  induction records with
  | nil => exact .nothing (List.forall_mem_nil _) rfl
  | cons first rest ih =>
    cases hv : Secret.verify (.bytes presented) first.hash with
    | error fault => exact .broken rfl (List.forall_mem_nil _) hv (firstMatch_of_error hv)
    | ok fits =>
      cases fits with
      | true => exact .matched rfl (List.forall_mem_nil _) hv (firstMatch_of_true hv)
      | false =>
        have hpass : firstMatch presented (first :: rest) = firstMatch presented rest :=
          firstMatch_of_false hv
        cases ih with
        | nothing differ found =>
          exact .nothing (List.forall_mem_cons.mpr ⟨hv, differ⟩) (hpass.trans found)
        | matched split differ fits found =>
          exact .matched (congrArg (first :: ·) split) (List.forall_mem_cons.mpr ⟨hv, differ⟩) fits
            (hpass.trans found)
        | broken split differ raises found =>
          exact .broken (congrArg (first :: ·) split) (List.forall_mem_cons.mpr ⟨hv, differ⟩) raises
            (hpass.trans found)

/-- The first record that matches: those before it were checked, and differ. -/
theorem firstMatch_eq_some_iff :
    firstMatch presented records = .ok (some record) ↔
      ∃ before after, records = before ++ record :: after ∧
        (∀ r ∈ before, Secret.verify (.bytes presented) r.hash = .ok false) ∧
        Secret.verify (.bytes presented) record.hash = .ok true := by
  constructor
  · intro h
    cases search presented records with
    | nothing _ found => rw [h] at found; cases found
    | matched split differ fits found =>
      rw [h] at found
      cases found
      exact ⟨_, _, split, differ, fits⟩
    | broken _ _ _ found => rw [h] at found; cases found
  · rintro ⟨before, after, rfl, hbefore, hmatch⟩
    rw [firstMatch_append hbefore, firstMatch_of_true hmatch]

theorem firstMatch_eq_error_iff :
    firstMatch presented records = .error fault ↔
      ∃ before record after, records = before ++ record :: after ∧
        (∀ r ∈ before, Secret.verify (.bytes presented) r.hash = .ok false) ∧
        Secret.verify (.bytes presented) record.hash = .error fault := by
  constructor
  · intro h
    cases search presented records with
    | nothing _ found => rw [h] at found; cases found
    | matched _ _ _ found => rw [h] at found; cases found
    | broken split differ raises found =>
      rw [h] at found
      cases found
      exact ⟨_, _, _, split, differ, raises⟩
  · rintro ⟨before, record, after, rfl, hbefore, hraises⟩
    rw [firstMatch_append hbefore, firstMatch_of_error hraises]

end

theorem matches_of_firstMatch {presented : List UInt8} {secrets : List Store.Secret}
    {secret : Store.Secret} (h : firstMatch presented secrets = .ok (some secret)) :
    secret ∈ secrets ∧ Secret.verify (.bytes presented) secret.hash = .ok true := by
  obtain ⟨before, after, rfl, -, hmatch⟩ := firstMatch_eq_some_iff.mp h
  exact ⟨List.mem_append_right before List.mem_cons_self, hmatch⟩

/-- When every check succeeds, the first match is found unless there is none. -/
theorem firstMatch_of_checkable {presented : List UInt8} {secrets : List Store.Secret}
    (h : ∀ secret ∈ secrets, ∃ fits, Secret.verify (.bytes presented) secret.hash = .ok fits) :
    (∃ secret, firstMatch presented secrets = .ok (some secret)) ∨
      (firstMatch presented secrets = .ok none ∧
        ∀ secret ∈ secrets, Secret.verify (.bytes presented) secret.hash ≠ .ok true) := by
  cases search presented secrets with
  | nothing differ found =>
    refine .inr ⟨found, fun secret hs => ?_⟩
    rw [differ secret hs]
    simp
  | matched _ _ _ found => exact .inl ⟨_, found⟩
  | @broken before after secret fault split _ raises _ =>
    obtain ⟨fits, hv⟩ := h secret (split ▸ List.mem_append_right before List.mem_cons_self)
    rw [raises] at hv
    cases hv

/-- One of the checks against the secrets on file raises, and none before it fits. -/
inductive BreaksOff (presented : List UInt8) : List Store.Secret → Prop where
  | here {secret : Store.Secret} {rest : List Store.Secret} {fault : Secret.Fault}
      (raises : Secret.verify (.bytes presented) secret.hash = .error fault) :
      BreaksOff presented (secret :: rest)
  | after {secret : Store.Secret} {rest : List Store.Secret}
      (differs : Secret.verify (.bytes presented) secret.hash = .ok false)
      (broken : BreaksOff presented rest) : BreaksOff presented (secret :: rest)

theorem BreaksOff.exists_raises {presented : List UInt8} {secrets : List Store.Secret}
    (h : BreaksOff presented secrets) :
    ∃ secret ∈ secrets, ∃ fault, Secret.verify (.bytes presented) secret.hash = .error fault := by
  induction h with
  | here raises => exact ⟨_, List.mem_cons_self, _, raises⟩
  | after _ _ ih =>
    obtain ⟨secret, hs, raises⟩ := ih
    exact ⟨secret, List.mem_cons_of_mem _ hs, raises⟩

theorem firstMatch_fails_iff {presented : List UInt8} {secrets : List Store.Secret} :
    (∃ fault, firstMatch presented secrets = .error fault) ↔ BreaksOff presented secrets := by
  -- The search and the predicate go down the list alike: a record raises, fits, or is passed.
  induction secrets with
  | nil => exact iff_of_false (by simp [firstMatch]) nofun
  | cons s rest ih =>
    cases hv : Secret.verify (.bytes presented) s.hash with
    | error raised => exact iff_of_true ⟨raised, firstMatch_of_error hv⟩ (.here hv)
    | ok fits =>
      cases fits with
      | true =>
        rw [firstMatch_of_true hv]
        refine iff_of_false (by simp) fun h => ?_
        cases h with
        | here raises => rw [hv] at raises; cases raises
        | after differs _ => rw [hv] at differs; cases differs
      | false =>
        rw [firstMatch_of_false hv, ih]
        constructor
        · exact .after hv
        · intro h
          cases h with
          | here raises => rw [hv] at raises; cases raises
          | after _ broken => exact broken

/-- A secret on file belongs to the client it was looked up for. -/
theorem getClient_owner {stores : Stores} {clientId : String} {secret : Store.Secret}
    (h : secret ∈ stores.secrets.ownedBy clientId) :
    stores.getClient secret.owner = stores.findClient clientId := by
  unfold Stores.getClient Stores.findClient
  rw [← Clients.find_id, Secrets.owner_of_mem h]

/-- The owner of a secret is recognised when it is on file as a confidential client. -/
theorem recognizeOwner_of_get {directory : Directory} {secret : Store.Secret}
    {found : Option Client.Configuration} (h : directory.getClient secret.owner = .ok found) :
    (recognizeOwner directory secret).result =
      .ok (found.bind fun client =>
        if client.kind = .confidentialClient then some (.confidential client) else none) := by
  unfold recognizeOwner
  rw [h]
  cases found with
  | none => rfl
  | some client =>
    simp only [Option.bind_some]
    split <;> rfl

theorem recognizeOwner_result {stores : Stores} {clientId : String} {secret : Store.Secret}
    (up : .configurations ∉ stores.down) (h : secret ∈ stores.secrets.ownedBy clientId) :
    (recognizeOwner (ofStores stores) secret).result =
      .ok ((stores.clients.find clientId).bind fun client =>
        if client.kind = .confidentialClient then some (.confidential client) else none) :=
  recognizeOwner_of_get ((getClient_owner h).trans (Stores.call_of_up up))

/-- With the secrets at hand, the first match decides. -/
theorem authenticate_of_found {directory : Directory} {clientId : String}
    {secrets : List Store.Secret} (found : directory.findSecrets clientId = .ok secrets)
    (presented : List UInt8) :
    authenticate directory clientId presented =
      match firstMatch presented secrets with
      | .error fault => .quiet (.error (.check fault))
      | .ok none => .quiet (.ok none)
      | .ok (some secret) => recognizeOwner directory secret := by
  unfold authenticate
  rewrite [found]
  rfl

theorem authenticate_of_up {stores : Stores} (up : .secrets ∉ stores.down) (clientId : String)
    (presented : List UInt8) :
    authenticate (ofStores stores) clientId presented =
      match firstMatch presented (stores.secrets.ownedBy clientId) with
      | .error fault => .quiet (.error (.check fault))
      | .ok none => .quiet (.ok none)
      | .ok (some secret) => recognizeOwner (ofStores stores) secret :=
  authenticate_of_found (Stores.call_of_up up) presented

/-- Who is recognised by a secret proves to be a confidential client, and both stores were asked. -/
theorem proves_of_authenticate {stores : Stores} {clientId : String} {presented : List UInt8}
    {principal : Client.Principal}
    (h : (authenticate (ofStores stores) clientId presented).result = .ok (some principal)) :
    .configurations ∉ stores.down ∧ .secrets ∉ stores.down ∧
      ∃ client, Proves stores clientId presented client ∧ principal = .confidential client := by
  -- A store that is out of reach ends the search with a fault, so both are at hand.
  by_cases hs : .secrets ∈ stores.down
  · have hfind : (ofStores stores).findSecrets clientId = .error ⟨.secrets⟩ := if_pos hs
    simp only [authenticate, hfind] at h
    exact absurd h (by simp [Outcome.quiet])
  rw [authenticate_of_up hs] at h
  cases hm : firstMatch presented (stores.secrets.ownedBy clientId) with
  | error fault => rw [hm] at h; exact absurd h (by simp [Outcome.quiet])
  | ok found =>
    rw [hm] at h
    cases found with
    | none => exact absurd h (by simp [Outcome.quiet])
    | some secret =>
      obtain ⟨hmem, hv⟩ := matches_of_firstMatch hm
      by_cases hc : .configurations ∈ stores.down
      · have hget : (ofStores stores).getClient secret.owner = .error ⟨.configurations⟩ := if_pos hc
        simp only [recognizeOwner, hget] at h
        exact absurd h (by simp [Outcome.quiet])
      · rw [recognizeOwner_result hc hmem] at h
        simp only [Except.ok.injEq, Option.bind_eq_some_iff, Option.ite_none_right_eq_some,
          Option.some.injEq] at h
        obtain ⟨client, hclient, hkind, rfl⟩ := h
        exact ⟨hc, hs, client, ⟨⟨secret, hmem, hv⟩, hclient, hkind⟩, rfl⟩

/-- With both stores at hand and every hash fit to be checked against, a client is recognised by a
secret when it proves to be confidential, and otherwise nobody is. -/
theorem authenticate_of_checkable {stores : Stores} {clientId : String} {presented : List UInt8}
    (clientsUp : .configurations ∉ stores.down) (secretsUp : .secrets ∉ stores.down)
    (checkable : Checkable stores clientId presented) :
    (∃ client, Proves stores clientId presented client ∧
        (authenticate (ofStores stores) clientId presented).result =
          .ok (some (.confidential client))) ∨
      (authenticate (ofStores stores) clientId presented).result = .ok none ∧
        ∀ client, ¬ Proves stores clientId presented client := by
  rw [authenticate_of_up secretsUp]
  rcases firstMatch_of_checkable checkable with ⟨secret, hm⟩ | ⟨hn, hall⟩
  · obtain ⟨hmem, hv⟩ := matches_of_firstMatch hm
    simp only [hm]
    rw [recognizeOwner_result clientsUp hmem]
    cases hc : stores.clients.find clientId with
    | none => exact .inr ⟨rfl, fun client h => absurd (hc ▸ h.registered) (by simp)⟩
    | some client =>
      rw [Option.bind_some]
      -- Whichever secret matched first, the client found for it is the one the text names.
      by_cases hk : client.kind = .confidentialClient
      · exact .inl ⟨client, ⟨⟨secret, hmem, hv⟩, hc, hk⟩, by rw [if_pos hk]⟩
      · refine .inr ⟨by rw [if_neg hk], fun other h => ?_⟩
        have he : client = other := Option.some.inj (hc.symm.trans h.registered)
        exact hk (he ▸ h.kind)
  · simp only [hn]
    refine .inr ⟨rfl, fun client h => ?_⟩
    obtain ⟨secret, hmem, hv⟩ := h.matched
    exact hall secret hmem hv

theorem identify_of_up {stores : Stores} (up : .configurations ∉ stores.down) (clientId : String) :
    (identify (ofStores stores) clientId).result =
      .ok ((stores.clients.find clientId).bind fun client =>
        if client.kind = .publicClient then some (.identified client) else none) := by
  unfold identify
  have hfind : (ofStores stores).findClient clientId = .ok (stores.clients.find clientId) :=
    Stores.call_of_up up
  rw [hfind]
  cases stores.clients.find clientId with
  | none => rfl
  | some client => rfl

/-- Who is recognised by an identifier alone presented no secret. -/
theorem identified_of_identify {stores : Stores} {clientId : String}
    {principal : Client.Principal}
    (h : (identify (ofStores stores) clientId).result = .ok (some principal)) :
    ∃ client, principal = .identified client := by
  unfold identify at h
  cases hf : (ofStores stores).findClient clientId with
  | error unreachable => rw [hf] at h; exact absurd h (by simp [Outcome.quiet])
  | ok found =>
    rw [hf] at h
    cases found with
    | none => exact absurd h (by simp [Outcome.quiet])
    | some client =>
      simp only [Outcome.quiet, Except.ok.injEq, Option.ite_none_right_eq_some,
        Option.some.injEq] at h
      exact ⟨client, h.2.symm⟩

/-- The one log call that a lookup may make tells of a secret without a confidential owner. -/
theorem event_of_authenticate {directory : Directory} {clientId : String}
    {presented : List UInt8} {call : Log.Call}
    (h : call ∈ (authenticate directory clientId presented).calls) :
    call.event = "client_secret_without_confidential_configuration" := by
  have horphan (secret : Store.Secret) (hc : call ∈ [orphanCall secret]) :
      call.event = "client_secret_without_confidential_configuration" := by
    rw [List.mem_singleton.mp hc]
    rfl
  unfold authenticate at h
  split at h
  · exact absurd h List.not_mem_nil
  · split at h
    · exact absurd h List.not_mem_nil
    · exact absurd h List.not_mem_nil
    next secret _ =>
      unfold recognizeOwner at h
      split at h
      · exact absurd h List.not_mem_nil
      · exact horphan secret h
      · split at h
        · exact absurd h List.not_mem_nil
        · exact horphan secret h

end TokenIssuer.Authentication
