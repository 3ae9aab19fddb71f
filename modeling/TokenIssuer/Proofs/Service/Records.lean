import Mathlib.Data.List.Basic
import Mathlib.Data.List.Induction
import TokenIssuer.Proofs.Store
import TokenIssuer.Service.Application

/-!
What the stores hold after any changes: under each identifier the record that was saved under it
last, and nothing else. A list of records to start from is a list of saves.
-/

namespace TokenIssuer.Service

open Store

/-- What a change is about. -/
inductive Subject where
  | client (id : Client.Id)
  | secret (id : Uuid)
  | token (id : Uuid)
  | reach
  deriving DecidableEq

def Change.subject : Change → Subject
  | .saveClient configuration => .client configuration.id
  | .deleteClient id => .client id
  | .saveSecret secret => .secret secret.id
  | .saveToken token => .token token.id
  | .setDown _ => .reach

variable {made : List Change} {change new : Change} {start : Stores}

/-! ## The latest change about something -/

/-- The change was made, and none about the same was made after it. -/
def Latest (made : List Change) (change : Change) : Prop :=
  ∃ earlier later, made = earlier ++ change :: later ∧ change.subject ∉ later.map Change.subject

theorem not_latest_nil : ¬ Latest [] change := by
  rintro ⟨earlier, later, h, -⟩
  exact List.append_ne_nil_of_right_ne_nil earlier (List.cons_ne_nil change later) h.symm

theorem latest_concat :
    Latest (made ++ [new]) change ↔
      change = new ∨ change.subject ≠ new.subject ∧ Latest made change := by
  constructor
  · rintro ⟨earlier, later, h, hlater⟩
    rcases List.eq_nil_or_concat later with rfl | ⟨later, last, rfl⟩
    · exact .inl (List.singleton_inj.mp (List.append_inj' h rfl).2).symm
    · -- The newest change is the last one of those made after the given one.
      rw [List.concat_eq_append, ← List.cons_append, ← List.append_assoc] at h
      obtain ⟨rfl, hnew⟩ := List.append_inj' h rfl
      cases hnew
      rw [List.concat_eq_append, List.map_append, List.mem_append, not_or] at hlater
      refine .inr ⟨?_, earlier, later, rfl, hlater.1⟩
      exact fun he => hlater.2 (List.mem_singleton.mpr he)
  · rintro (rfl | ⟨hne, earlier, later, rfl, hlater⟩)
    · exact ⟨made, [], rfl, List.not_mem_nil⟩
    · -- A change about something else leaves it the latest.
      refine ⟨earlier, later ++ [new], ?_, ?_⟩
      · rw [List.append_assoc, List.cons_append]
      · rw [List.map_append, List.mem_append, not_or]
        exact ⟨hlater, fun he => hne (List.mem_singleton.mp he)⟩

/-- What a change was made about has a latest change. -/
theorem exists_latest {subject : Subject} (h : subject ∈ made.map Change.subject) :
    ∃ change, Latest made change ∧ change.subject = subject := by
  induction made using List.reverseRecOn with
  | nil => cases h
  | append_singleton made new ih =>
    by_cases hnew : new.subject = subject
    · exact ⟨new, latest_concat.mpr (.inl rfl), hnew⟩
    · rw [List.map_append, List.mem_append] at h
      obtain ⟨change, hlatest, rfl⟩ :=
        ih (h.resolve_right fun he => hnew (List.mem_singleton.mp he).symm)
      exact ⟨change, latest_concat.mpr (.inr ⟨Ne.symm hnew, hlatest⟩), rfl⟩

theorem Latest.mem (h : Latest made change) : change.subject ∈ made.map Change.subject := by
  obtain ⟨earlier, later, rfl, -⟩ := h
  exact List.mem_map_of_mem (List.mem_append_right _ List.mem_cons_self)

/-- At some time the first secret had been saved and the second had not. -/
def SavedBefore (made : List Change) (first second : Uuid) : Prop :=
  ∃ earlier later, made = earlier ++ later ∧ .secret first ∈ earlier.map Change.subject ∧
    .secret second ∉ earlier.map Change.subject

theorem SavedBefore.concat {first second : Uuid} (h : SavedBefore made first second) :
    SavedBefore (made ++ [new]) first second := by
  obtain ⟨earlier, later, rfl, hfirst, hsecond⟩ := h
  exact ⟨earlier, later ++ [new], List.append_assoc _ _ _, hfirst, hsecond⟩

/-! ## Looking a record up -/

/-- A way to look a record up that sees the changes about one subject, each as it is made. -/
structure Looks {ρ : Type} (look : Stores → Option ρ) (save : ρ → Change) (subject : Subject) :
    Prop where
  other : ∀ stores (change : Change), change.subject ≠ subject →
    look (change.apply stores) = look stores
  same : ∀ stores (change : Change), change.subject = subject →
    ∀ record, look (change.apply stores) = some record ↔ change = save record

/-- From stores that do not have it, a record is found if the latest change about it saves it. -/
theorem Looks.eq_some_iff {ρ : Type} {look : Stores → Option ρ} {save : ρ → Change}
    {subject : Subject} (h : Looks look save subject) (absent : look start = none) (record : ρ) :
    look (made.foldl Change.apply start) = some record ↔
      (save record).subject = subject ∧ Latest made (save record) := by
  -- Taken from the newest change backwards: it alone decides if it is about the subject, and
  -- otherwise nothing is different from before it.
  induction made using List.reverseRecOn with
  | nil =>
    show look start = some record ↔ _
    rw [absent]
    exact iff_of_false (fun he => nomatch he) fun he => not_latest_nil he.2
  | append_singleton made new ih =>
    rw [List.foldl_append, latest_concat]
    show look (new.apply (made.foldl Change.apply start)) = some record ↔ _
    by_cases hnew : new.subject = subject
    · -- Whatever was saved before is gone, and is not the latest any more.
      rw [h.same _ new hnew]
      constructor
      · rintro rfl
        exact ⟨hnew, .inl rfl⟩
      · rintro ⟨hsubject, he | ⟨hne, -⟩⟩
        · exact he.symm
        · exact absurd (hsubject.trans hnew.symm) hne
    · rw [h.other _ new hnew, ih]
      apply and_congr_right
      intro hsubject
      -- The newest change is about something else, so that it is not the one that saves the record.
      have hne : (save record).subject ≠ new.subject := fun he => hnew (he.symm.trans hsubject)
      rw [or_iff_right fun he => hne (congrArg Change.subject he), and_iff_right hne]

theorem looks_secret (id : Uuid) : Looks (·.secrets.get? id) .saveSecret (.secret id) where
  other := by
    intro stores change h
    cases change with
    | saveSecret secret => exact Table.get?_put_of_ne (fun he => h (by rw [he]; rfl)) stores.secrets
    | _ => rfl
  same := by
    intro stores change h record
    cases change with
    | saveSecret secret =>
      cases h
      show (stores.secrets.put secret).get? secret.id = some record ↔ _
      rw [Table.get?_put_self, Option.some.injEq, Change.saveSecret.injEq]
    | _ => cases h

theorem looks_client (id : Client.Id) : Looks (·.clients.get? id) .saveClient (.client id) where
  other := by
    intro stores change h
    cases change with
    | saveClient client => exact Table.get?_put_of_ne (fun he => h (by rw [he]; rfl)) stores.clients
    | deleteClient gone =>
      exact Table.get?_erase_of_ne (fun he => h (by rw [he]; rfl)) stores.clients
    | _ => rfl
  same := by
    intro stores change h record
    cases change with
    | saveClient client =>
      cases h
      show (stores.clients.put client).get? client.id = some record ↔ _
      rw [Table.get?_put_self, Option.some.injEq, Change.saveClient.injEq]
    | deleteClient gone =>
      cases h
      show (stores.clients.erase id).get? id = some record ↔ _
      -- A deletion leaves nothing to find, and it saves nothing.
      rw [Table.get?_erase_self]
      exact iff_of_false (fun he => nomatch he) fun he => nomatch he
    | _ => cases h

theorem get?_clients_iff (empty : start.clients = .empty) {id : Client.Id}
    {client : Client.Configuration} :
    (made.foldl Change.apply start).clients.get? id = some client ↔
      client.id = id ∧ Latest made (.saveClient client) := by
  have hnone : start.clients.get? id = none := by
    rw [empty]
    rfl
  rw [(looks_client id).eq_some_iff hnone]
  exact and_congr_left' ⟨Subject.client.inj, congrArg Subject.client⟩

section

variable (empty : start.secrets = .empty)

include empty

theorem get?_secrets_iff {id : Uuid} {record : Store.Secret} :
    (made.foldl Change.apply start).secrets.get? id = some record ↔
      record.id = id ∧ Latest made (.saveSecret record) := by
  have hnone : start.secrets.get? id = none := by
    rw [empty]
    rfl
  rw [(looks_secret id).eq_some_iff hnone]
  exact and_congr_left' ⟨Subject.secret.inj, congrArg Subject.secret⟩

/-- A secret is on file exactly if it was ever saved. -/
theorem mem_ids_iff {id : Uuid} :
    id ∈ (made.foldl Change.apply start).secrets.rows.map Secret.id ↔
      .secret id ∈ made.map Change.subject := by
  rw [List.mem_map]
  constructor
  · rintro ⟨record, hrecord, rfl⟩
    exact ((get?_secrets_iff empty).mp (Table.mem_rows_iff.mp hrecord)).2.mem
  · intro h
    obtain ⟨change, hlatest, hsubject⟩ := exists_latest h
    cases change with
    | saveSecret record =>
      have hget := (get?_secrets_iff empty).mpr ⟨rfl, hlatest⟩
      exact ⟨record, Table.mem_rows_iff.mpr hget, Subject.secret.inj hsubject⟩
    | _ => cases hsubject

/-- Secrets are kept in the order in which their identifiers were first saved. -/
theorem ordered_secrets :
    ((made.foldl Change.apply start).secrets.rows.map Secret.id).Pairwise (SavedBefore made) := by
  induction made using List.reverseRecOn with
  | nil =>
    show (start.secrets.rows.map Secret.id).Pairwise _
    rw [empty]
    exact .nil
  | append_singleton made new ih =>
    -- What is in order stays so, and no change but the save of a secret adds one.
    have hbefore : ((made.foldl Change.apply start).secrets.rows.map Secret.id).Pairwise
        (SavedBefore (made ++ [new])) := ih.imp SavedBefore.concat
    rw [List.foldl_append]
    show ((new.apply _).secrets.rows.map Secret.id).Pairwise _
    cases new with
    | saveSecret secret =>
      show ((putRow Secret.id secret _).map Secret.id).Pairwise _
      by_cases hold : secret.id ∈
          (made.foldl Change.apply start).secrets.rows.map Secret.id
      · -- It takes the place it had, whoever its owner was.
        rwa [keys_putRow_of_mem hold]
      · -- It comes behind all the others, none of which it is.
        rw [putRow_of_new hold, List.map_append, List.pairwise_append]
        refine ⟨hbefore, List.pairwise_singleton _ _, ?_⟩
        intro first hfirst second hsecond
        rw [List.mem_singleton.mp hsecond]
        exact ⟨made, _, rfl, (mem_ids_iff empty).mp hfirst, mt (mem_ids_iff empty).mpr hold⟩
    | _ => exact hbefore

end

/-! ## What the stores hold -/

/-- The stores hold what the changes made of them, taken in their order. -/
structure Remembers (made : List Change) (stores : Stores) : Prop where
  /-- A secret that was ever saved is found as it was saved last, and so it stands in the list of
  its owner, once, and in no other list. -/
  secret : ∀ id, .secret id ∈ made.map Change.subject →
    ∃ record, Latest made (.saveSecret record) ∧ record.id = id ∧
      stores.secrets.get? id = some record ∧
      ∀ owner, (stores.secrets.ofClient owner).filter (fun s => s.id = id) =
        if record.owner = owner then [record] else []
  unsaved : ∀ id, .secret id ∉ made.map Change.subject → stores.secrets.get? id = none
  listed : ∀ owner, ∀ record ∈ stores.secrets.ofClient owner, Latest made (.saveSecret record)
  ordered : ∀ owner,
    ((stores.secrets.ofClient owner).map Secret.id).Pairwise (SavedBefore made)
  /-- A client is found as it was saved last, unless it was deleted after that. -/
  client : ∀ id client, stores.clients.get? id = some client ↔
    client.id = id ∧ Latest made (.saveClient client)
  delete : ∀ id, (stores.clients.delete id).2 = ((Change.deleteClient id).apply stores).clients ∧
    ((stores.clients.delete id).1 = true ↔
      ∃ client, client.id = id ∧ Latest made (.saveClient client))
  named : ∀ id : Client.Id, stores.clients.find id.text = stores.clients.get? id ∧
    stores.secrets.ownedBy id.text = stores.secrets.ofClient id
  unnamed : stores.clients.find "" = none ∧ stores.secrets.ownedBy "" = []

theorem filter_ofClient {secrets : Secrets} {id : Uuid} {record : Store.Secret}
    (found : secrets.get? id = some record) (owner : Client.Id) :
    (secrets.ofClient owner).filter (fun s => s.id = id) =
      if record.owner = owner then [record] else [] := by
  show (secrets.rows.filter _).filter _ = _
  -- Of all rows only the one found has the identifier, and it has one owner.
  rw [List.filter_comm, Table.filter_of_get? found, List.filter_cons, List.filter_nil]
  simp only [decide_eq_true_eq]

theorem remembers_of_empty (clients : start.clients = .empty) (secrets : start.secrets = .empty) :
    Remembers made (made.foldl Change.apply start) where
  secret := by
    intro id h
    obtain ⟨record, hrecord, rfl⟩ := List.mem_map.mp ((mem_ids_iff secrets).mpr h)
    have hget := Table.mem_rows_iff.mp hrecord
    exact ⟨record, ((get?_secrets_iff secrets).mp hget).2, rfl, hget, filter_ofClient hget⟩
  unsaved := by
    intro id h
    rw [← mem_ids_iff secrets] at h
    apply Option.eq_none_iff_forall_ne_some.mpr
    intro record hget
    exact h (List.mem_map.mpr ⟨record, List.mem_of_find?_eq_some hget, Table.key_of_get? hget⟩)
  listed := by
    intro owner record hrecord
    have hget := Table.mem_rows_iff.mp (List.mem_filter.mp hrecord).1
    exact ((get?_secrets_iff secrets).mp hget).2
  ordered := fun owner => (ordered_secrets secrets).sublist (List.filter_sublist.map Secret.id)
  client := fun id client => get?_clients_iff clients
  delete := by
    intro id
    refine ⟨rfl, Table.has_eq_true_iff.trans ?_⟩
    exact exists_congr fun client => get?_clients_iff clients
  named := fun id => ⟨Clients.find_id id, Secrets.ownedBy_id _ id⟩
  unnamed := ⟨Clients.find_empty _, Secrets.ownedBy_empty _⟩

/-! ## Stores that start with records -/

theorem foldl_saveClient (clients : List Client.Configuration) (start : Stores) :
    (clients.map Change.saveClient).foldl Change.apply start =
      { start with clients := clients.foldl Table.put start.clients } := by
  induction clients generalizing start with
  | nil => rfl
  | cons client clients ih => exact ih _

theorem foldl_saveSecret (secrets : List Store.Secret) (start : Stores) :
    (secrets.map Change.saveSecret).foldl Change.apply start =
      { start with secrets := secrets.foldl Table.put start.secrets } := by
  induction secrets generalizing start with
  | nil => rfl
  | cons secret secrets ih => exact ih _

/-- Whatever records the stores start with and whatever is done to them, they lose and duplicate
nothing. -/
theorem stores_lose_and_duplicate_nothing (clients : List Client.Configuration)
    (secrets : List Store.Secret) (tokens : Tokens) (down : List Name) (changes : List Change) :
    Remembers (clients.map .saveClient ++ secrets.map .saveSecret ++ changes)
      (changes.foldl Change.apply
        { clients := .ofRows clients, secrets := .ofRows secrets, tokens, down }) := by
  -- The records to start with are saved from bare stores, one after the other.
  let bare : Stores := { clients := .empty, secrets := .empty, tokens, down }
  have hremembers := @remembers_of_empty
    (clients.map .saveClient ++ secrets.map .saveSecret ++ changes) bare rfl rfl
  rw [List.foldl_append, List.foldl_append, foldl_saveClient, foldl_saveSecret] at hremembers
  exact hremembers

/-- A secret that is saved again for another client leaves the list of the one that had it. -/
example :
    ([.saveSecret ⟨⟨1⟩, Demo.confidentialId, "first"⟩,
        .saveSecret ⟨⟨2⟩, Demo.confidentialId, "second"⟩,
        .saveSecret ⟨⟨1⟩, Demo.publicId, "third"⟩].foldl Change.apply .empty).secrets.ofClient
      Demo.confidentialId = [⟨⟨2⟩, Demo.confidentialId, "second"⟩] := by rfl

end TokenIssuer.Service
