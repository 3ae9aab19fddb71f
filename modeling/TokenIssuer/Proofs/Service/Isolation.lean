import TokenIssuer.Proofs.Demo

/-!
What is administered for one client reaches no other one, and a further secret of a client takes
none of its credentials away.
-/

namespace TokenIssuer.Service

open Authentication Store

/-! ## Stores that differ in secrets added last -/

/-- For the client a text names the second stores hold what the first ones do, and behind its
secrets some more. -/
structure Extends (stores stores' : Stores) (text : String) (added : List Store.Secret) : Prop where
  down : stores'.down = stores.down
  registered : stores'.clients.find text = stores.clients.find text
  secrets : stores'.secrets.ownedBy text = stores.secrets.ownedBy text ++ added

variable {stores stores' stores'' : Stores} {text : String} {added more : List Store.Secret}
  {presented : List UInt8}

theorem Extends.refl (stores : Stores) (text : String) : Extends stores stores text [] :=
  ⟨rfl, rfl, (List.append_nil _).symm⟩

theorem Extends.trans (first : Extends stores stores' text added)
    (second : Extends stores' stores'' text more) :
    Extends stores stores'' text (added ++ more) where
  down := second.down.trans first.down
  registered := second.registered.trans first.registered
  secrets := by rw [second.secrets, first.secrets, List.append_assoc]

theorem Extends.findClient (h : Extends stores stores' text added) :
    stores'.findClient text = stores.findClient text := by
  unfold Stores.findClient Stores.call
  rw [h.down, h.registered]

theorem Extends.identify_eq (h : Extends stores stores' text added) :
    identify (ofStores stores') text = identify (ofStores stores) text := by
  have hfind : (ofStores stores').findClient text = (ofStores stores).findClient text :=
    h.findClient
  unfold identify
  rw [hfind]

theorem Extends.recognizeOwner_eq (h : Extends stores stores' text added) {secret : Store.Secret}
    (mem : secret ∈ stores.secrets.ownedBy text) :
    recognizeOwner (ofStores stores') secret = recognizeOwner (ofStores stores) secret := by
  have hmem : secret ∈ stores'.secrets.ownedBy text := by
    rw [h.secrets]
    exact List.mem_append_left added mem
  -- The owner of the secret is looked up as the client the text names.
  have hget : (ofStores stores').getClient secret.owner =
      (ofStores stores).getClient secret.owner :=
    (getClient_owner hmem).trans (h.findClient.trans (getClient_owner mem).symm)
  unfold recognizeOwner
  rw [hget]

/-- Nothing is different as long as the added secrets do not decide. -/
theorem Extends.authenticate_eq (h : Extends stores stores' text added)
    (undecided : firstMatch presented (stores.secrets.ownedBy text ++ added) =
      firstMatch presented (stores.secrets.ownedBy text)) :
    authenticate (ofStores stores') text presented =
      authenticate (ofStores stores) text presented := by
  by_cases hdown : .secrets ∈ stores.down
  · have hdown' : .secrets ∈ stores'.down := h.down ▸ hdown
    have hfind : (ofStores stores).findSecrets text = .error ⟨.secrets⟩ := if_pos hdown
    have hfind' : (ofStores stores').findSecrets text = .error ⟨.secrets⟩ := if_pos hdown'
    unfold authenticate
    rw [hfind, hfind']
  · have hup' : .secrets ∉ stores'.down := h.down ▸ hdown
    rw [authenticate_of_up hdown, authenticate_of_up hup', h.secrets, undecided]
    cases hfirst : firstMatch presented (stores.secrets.ownedBy text) with
    | error fault => rfl
    | ok found =>
      cases found with
      | none => rfl
      | some secret => exact h.recognizeOwner_eq (matches_of_firstMatch hfirst).1

/-- A secret that matches stays the first one to match, whatever comes behind it. -/
theorem firstMatch_append_of_some {secrets : List Store.Secret} {secret : Store.Secret}
    (h : firstMatch presented secrets = .ok (some secret)) (added : List Store.Secret) :
    firstMatch presented (secrets ++ added) = .ok (some secret) := by
  -- The check stops at the match: what fails behind it is never reached.
  obtain ⟨before, after, rfl, hbefore, hmatch⟩ := firstMatch_eq_some_iff.mp h
  rw [List.append_assoc, List.cons_append]
  exact firstMatch_eq_some_iff.mpr ⟨before, after ++ added, rfl, hbefore, hmatch⟩

theorem Extends.authenticate_of_recognized (h : Extends stores stores' text added)
    {principal : Client.Principal}
    (before : (authenticate (ofStores stores) text presented).result = .ok (some principal)) :
    authenticate (ofStores stores') text presented =
      authenticate (ofStores stores) text presented := by
  obtain ⟨-, hup, -⟩ := proves_of_authenticate before
  apply h.authenticate_eq
  -- The search ends at a record that was there before, ahead of all that are added.
  rw [authenticate_of_up hup] at before
  cases hfirst : firstMatch presented (stores.secrets.ownedBy text) with
  | error fault => rw [hfirst] at before; exact absurd before (by simp [Outcome.quiet])
  | ok found =>
    cases found with
    | none => rw [hfirst] at before; exact absurd before (by simp [Outcome.quiet])
    | some secret => exact firstMatch_append_of_some hfirst added

/-! ## The administration of a client -/

/-- The change is one an administrator makes for a client: its configuration is saved or deleted,
or a secret of its own is filed under an identifier that is not in use. -/
inductive Administers (id : Client.Id) (stores : Stores) : Change → Prop where
  | saveClient {configuration : Client.Configuration} (own : configuration.id = id) :
      Administers id stores (.saveClient configuration)
  | deleteClient : Administers id stores (.deleteClient id)
  | saveSecret {secret : Store.Secret} (own : secret.owner = id)
      (unused : stores.secrets.get? secret.id = none) :
      Administers id stores (.saveSecret secret)

/-- Changes for a client, one after the other. -/
inductive Administration (id : Client.Id) : Stores → List Change → Prop where
  | done {stores : Stores} : Administration id stores []
  | step {stores : Stores} {change : Change} {changes : List Change}
      (first : Administers id stores change)
      (rest : Administration id (change.apply stores) changes) :
      Administration id stores (change :: changes)

variable {id : Client.Id} {change : Change} {changes : List Change}

theorem find_of_other {clients clients' : Clients} (other : text ≠ id.text)
    (kept : ∀ k, k ≠ id → clients'.get? k = clients.get? k) :
    clients'.find text = clients.find text := by
  unfold Clients.find Client.Id.of?
  split
  · apply kept
    rintro rfl
    exact other rfl
  · rfl

theorem ownedBy_put {secrets : Secrets} {secret : Store.Secret}
    (unused : secrets.get? secret.id = none) (text : String) :
    Secrets.ownedBy (secrets.put secret) text =
      secrets.ownedBy text ++ if secret.owner.text = text then [secret] else [] := by
  unfold Secrets.ownedBy Table.select
  rw [Table.rows_put_of_new unused, List.filter_append, List.filter_cons, List.filter_nil]
  simp only [decide_eq_true_eq]

/-- A change for one client leaves everything about another one as it is. -/
theorem Administers.extends_other (h : Administers id stores change) (other : text ≠ id.text) :
    Extends stores (change.apply stores) text [] := by
  cases h with
  | saveClient own =>
    refine ⟨rfl, find_of_other other fun k hk => ?_, (List.append_nil _).symm⟩
    exact Table.get?_put_of_ne (own ▸ hk) stores.clients
  | deleteClient =>
    refine ⟨rfl, find_of_other other fun k hk => ?_, (List.append_nil _).symm⟩
    exact Table.get?_erase_of_ne hk stores.clients
  | saveSecret own unused =>
    refine ⟨rfl, rfl, ?_⟩
    show Secrets.ownedBy (stores.secrets.put _) text = _
    rw [ownedBy_put unused, if_neg (by rw [own]; exact Ne.symm other)]

/-- A further secret of a client comes behind those on file for it. -/
theorem extends_saveSecret {secret : Store.Secret}
    (unused : stores.secrets.get? secret.id = none) :
    Extends stores ((Change.saveSecret secret).apply stores) secret.owner.text [secret] where
  down := rfl
  registered := rfl
  secrets := by
    show Secrets.ownedBy (stores.secrets.put secret) _ = _
    rw [ownedBy_put unused, if_pos rfl]

theorem Administration.extends_other (h : Administration id stores changes)
    (other : text ≠ id.text) : Extends stores (changes.foldl Change.apply stores) text [] := by
  induction h with
  | done => exact .refl _ _
  | step first _ ih => exact (first.extends_other other).trans ih

theorem Administration.extends_own (h : Administration id stores changes)
    (only : ∀ change ∈ changes, ∃ secret, change = .saveSecret secret) :
    ∃ added, Extends stores (changes.foldl Change.apply stores) id.text added := by
  induction h with
  | done => exact ⟨[], .refl _ _⟩
  | step first _ ih =>
    -- What the first change adds stands before what is added by those that follow.
    obtain ⟨added, hrest⟩ := ih fun change hc => only change (List.mem_cons_of_mem _ hc)
    obtain ⟨secret, rfl⟩ := only _ List.mem_cons_self
    cases first with
    | saveSecret own unused =>
      subst own
      exact ⟨_, (extends_saveSecret unused).trans hrest⟩

/-- The administration of a client changes nothing about the recognition of any other one, by its
identifier alone or by a secret. Secrets that are added for it, whatever their hashes are, leave
each of its credentials with the principal it had. -/
theorem administration_isolates (h : Administration id stores changes) :
    (∀ other, other ≠ id.text → ∀ presented,
      identify (ofStores (changes.foldl Change.apply stores)) other =
        identify (ofStores stores) other ∧
      authenticate (ofStores (changes.foldl Change.apply stores)) other presented =
        authenticate (ofStores stores) other presented) ∧
    ((∀ change ∈ changes, ∃ secret, change = .saveSecret secret) → ∀ presented principal,
      (authenticate (ofStores stores) id.text presented).result = .ok (some principal) →
      (authenticate (ofStores (changes.foldl Change.apply stores)) id.text presented).result =
        .ok (some principal)) := by
  constructor
  · intro other hother presented
    have hextends := h.extends_other hother
    exact ⟨hextends.identify_eq, hextends.authenticate_eq (by rw [List.append_nil])⟩
  · intro only presented principal before
    obtain ⟨added, hextends⟩ := h.extends_own only
    rw [hextends.authenticate_of_recognized before]
    exact before

/-- A secret of the confidential demo client whose hash makes a check raise. -/
def corrupt : Store.Secret :=
  ⟨⟨5⟩, Demo.confidentialId, "$argon2id$v=19$m=8,t=1,p=1,keyid=AA"⟩

theorem authenticate_demo {hash : String}
    (verified :
      Secret.verify (.bytes (Utf8.encode Demo.confidentialSecret.toList)) hash = .ok true) :
    (authenticate (ofStores (Demo.stores ⟨4⟩ hash)) Demo.confidentialId.text
      (Utf8.encode Demo.confidentialSecret.toList)).result =
        .ok (some (.confidential Demo.confidential)) := by
  have hup := Demo.up_stores ⟨4⟩ hash
  have hproves : Proves (Demo.stores ⟨4⟩ hash) _ _ Demo.confidential :=
    Demo.proves_confidential verified
  rcases authenticate_of_checkable hup.clients hup.secrets
    (Demo.checkable_confidential verified) with ⟨client, h, hresult⟩ | ⟨-, hnobody⟩
  · obtain rfl := Option.some.inj (h.registered.symm.trans hproves.registered)
    exact hresult
  · exact absurd hproves (hnobody _)

theorem administration_isolates_demo :
    ∃ hash, Administration Demo.confidentialId (Demo.stores ⟨4⟩ hash) [.saveSecret corrupt] ∧
      Secret.verify (.bytes (Utf8.encode Demo.confidentialSecret.toList)) corrupt.hash =
        .error .keyId ∧
      (authenticate (ofStores ((Change.saveSecret corrupt).apply (Demo.stores ⟨4⟩ hash)))
        Demo.confidentialId.text (Utf8.encode Demo.confidentialSecret.toList)).result =
          .ok (some (.confidential Demo.confidential)) ∧
      identify (ofStores ((Change.saveSecret corrupt).apply (Demo.stores ⟨4⟩ hash)))
        Demo.publicId.text = identify (ofStores (Demo.stores ⟨4⟩ hash)) Demo.publicId.text := by
  obtain ⟨hash, -, verified⟩ := Demo.startStores_standard
  have hunused : (Demo.stores ⟨4⟩ hash).secrets.get? corrupt.id = none := rfl
  have hadministration : Administration Demo.confidentialId (Demo.stores ⟨4⟩ hash)
      [.saveSecret corrupt] := .step (.saveSecret rfl hunused) .done
  have hother : Demo.publicId.text ≠ Demo.confidentialId.text := by decide
  have honly : ∀ change ∈ [Change.saveSecret corrupt], ∃ secret, change = .saveSecret secret :=
    List.forall_mem_singleton.mpr ⟨corrupt, rfl⟩
  obtain ⟨hisolates, hkeeps⟩ := administration_isolates hadministration
  exact ⟨hash, hadministration, by decide, hkeeps honly _ _ (authenticate_demo verified),
    (hisolates _ hother []).1⟩

end TokenIssuer.Service
