import TokenIssuer.Store.Outage

/-! Tables after a put and an erasure, and stores that can be reached. -/

namespace TokenIssuer.Store

variable {κ α : Type} [DecidableEq κ] {key : α → κ}

theorem find?_putRow_self (row : α) (rs : List α) :
    (putRow key row rs).find? (fun r => key r = key row) = some row := by
  induction rs with
  | nil => simp [putRow]
  | cons r rs ih =>
    rw [putRow]
    by_cases h : key r = key row
    · simp [h]
    · rw [if_neg h, List.find?_cons_of_neg (by simpa using h), ih]

theorem find?_putRow_of_ne {k : κ} {row : α} (hk : k ≠ key row) (rs : List α) :
    (putRow key row rs).find? (fun r => key r = k) = rs.find? (fun r => key r = k) := by
  induction rs with
  | nil => simp [putRow, Ne.symm hk]
  | cons r rs ih =>
    rw [putRow]
    by_cases h : key r = key row
    · rw [if_pos h, List.find?_cons_of_neg (by simpa using Ne.symm hk),
        List.find?_cons_of_neg (by rw [h]; simpa using Ne.symm hk)]
    · rw [if_neg h, List.find?_cons, List.find?_cons, ih]

theorem mem_putRow {r row : α} {rs : List α} (h : r ∈ putRow key row rs) : r = row ∨ r ∈ rs := by
  induction rs with
  | nil => exact .inl (List.mem_singleton.mp h)
  | cons s rs ih =>
    rw [putRow] at h
    split at h
    · exact (List.mem_cons.mp h).imp id (List.mem_cons_of_mem s)
    · rcases List.mem_cons.mp h with rfl | h
      · exact .inr List.mem_cons_self
      · exact (ih h).imp id (List.mem_cons_of_mem s)

theorem putRow_of_new {row : α} {rs : List α} (h : key row ∉ rs.map key) :
    putRow key row rs = rs ++ [row] := by
  induction rs with
  | nil => rfl
  | cons r rs ih =>
    rw [List.map_cons, List.mem_cons, not_or] at h
    rw [putRow, if_neg (Ne.symm h.1), ih h.2, List.cons_append]

theorem keys_putRow_of_mem {row : α} {rs : List α} (h : key row ∈ rs.map key) :
    (putRow key row rs).map key = rs.map key := by
  induction rs with
  | nil => cases h
  | cons r rs ih =>
    rw [putRow]
    split
    next hr => rw [List.map_cons, List.map_cons, hr]
    next hr =>
      rw [List.map_cons, List.mem_cons] at h
      rw [List.map_cons, List.map_cons, ih (h.resolve_left (Ne.symm hr))]

/-- Where keys are distinct, the rows of the key of a row are that row alone. -/
theorem filter_key_of_mem {row : α} {rs : List α} (distinct : (rs.map key).Nodup) (h : row ∈ rs) :
    rs.filter (fun r => key r = key row) = [row] := by
  induction rs with
  | nil => cases h
  | cons r rs ih =>
    rw [List.map_cons, List.nodup_cons] at distinct
    by_cases hr : key r = key row
    · -- The keys are distinct, so no later row has the same one.
      have hnone : rs.filter (fun r => key r = key row) = [] := by
        rw [List.filter_eq_nil_iff]
        intro other ho he
        apply distinct.1
        rw [hr, ← of_decide_eq_true he]
        exact List.mem_map_of_mem ho
      rw [List.filter_cons, if_pos (decide_eq_true hr), hnone]
      rcases List.mem_cons.mp h with rfl | hrow
      · rfl
      · exact absurd (hr ▸ List.mem_map_of_mem hrow) distinct.1
    · rw [List.filter_cons, if_neg (by rwa [decide_eq_true_iff])]
      apply ih distinct.2
      exact (List.mem_cons.mp h).resolve_left fun he => hr (congrArg key he.symm)

namespace Table

@[simp] theorem get?_put_self (t : Table key) (row : α) : (t.put row).get? (key row) = some row :=
  find?_putRow_self row t.rows

theorem get?_put_of_ne {k : κ} {row : α} (h : k ≠ key row) (t : Table key) :
    (t.put row).get? k = t.get? k :=
  find?_putRow_of_ne h t.rows

@[simp] theorem get?_erase_self (t : Table key) (k : κ) : (t.erase k).get? k = none := by
  unfold get? erase
  rw [List.find?_eq_none]
  intro r hr
  simpa using (List.mem_filter.mp hr).2

theorem get?_erase_of_ne {k other : κ} (h : other ≠ k) (t : Table key) :
    (t.erase k).get? other = t.get? other := by
  unfold get? erase
  rw [List.find?_filter]
  congr 1
  funext r
  by_cases hr : key r = other
  · rw [hr]
    simp [h]
  · simp [hr]

theorem mem_rows_put {r row : α} {t : Table key} (h : r ∈ (t.put row).rows) :
    r = row ∨ r ∈ t.rows :=
  mem_putRow h

theorem rows_put_of_new {row : α} {t : Table key} (h : t.get? (key row) = none) :
    (t.put row).rows = t.rows ++ [row] := by
  apply putRow_of_new
  rw [List.mem_map]
  rintro ⟨r, hr, he⟩
  have hn := List.find?_eq_none.mp h r hr
  exact hn (decide_eq_true he)

/-- Rows with keys of their own are kept as they come. -/
theorem rows_ofRows {rows : List α} (h : (rows.map key).Nodup) :
    (ofRows rows : Table key).rows = rows := by
  have hfold (t : Table key) (rows : List α) (h : ((t.rows ++ rows).map key).Nodup) :
      (rows.foldl put t).rows = t.rows ++ rows := by
    induction rows generalizing t with
    | nil => exact (List.append_nil _).symm
    | cons row rest ih =>
      have hnew : key row ∉ t.rows.map key := by
        rw [List.map_append, List.nodup_append] at h
        exact fun hm => h.2.2 _ hm _ (List.mem_map_of_mem List.mem_cons_self) rfl
      have hput : (t.put row).rows = t.rows ++ [row] := putRow_of_new hnew
      have hrows : (t.put row).rows ++ rest = t.rows ++ row :: rest := by
        rw [hput, List.append_assoc, List.singleton_append]
      rw [List.foldl_cons, ih _ (by rw [hrows]; exact h), hrows]
  exact hfold empty rows h

/-- The row of a key has that key. -/
theorem key_of_get? {k : κ} {row : α} {t : Table key} (h : t.get? k = some row) : key row = k := by
  simpa using List.find?_some h

theorem filter_of_get? {k : κ} {row : α} {t : Table key} (h : t.get? k = some row) :
    t.rows.filter (fun r => key r = k) = [row] := by
  rw [← key_of_get? h]
  exact filter_key_of_mem t.distinct (List.mem_of_find?_eq_some h)

theorem mem_rows_iff {row : α} {t : Table key} :
    row ∈ t.rows ↔ t.get? (key row) = some row := by
  constructor
  · intro h
    have hrows := filter_key_of_mem t.distinct h
    unfold get?
    rw [← List.head?_filter, hrows]
    rfl
  · exact fun h => List.mem_of_find?_eq_some h

theorem has_eq_true_iff {k : κ} {t : Table key} : t.has k = true ↔ ∃ row, t.get? k = some row :=
  Option.isSome_iff_exists

end Table

/-- The configuration that a text finds is the one of the client the text names. -/
theorem Clients.id_of_find {clients : Clients} {text : String} {client : Client.Configuration}
    (h : clients.find text = some client) : client.id.text = text := by
  unfold Clients.find at h
  obtain ⟨id, hid, hget⟩ := Option.bind_eq_some_iff.mp h
  rw [Table.key_of_get? hget]
  unfold Client.Id.of? at hid
  split at hid
  · cases hid; rfl
  · exact absurd hid (by simp)

theorem Clients.find_id {clients : Clients} (id : Client.Id) :
    clients.find id.text = clients.get? id := by
  unfold Clients.find Client.Id.of?
  rw [dif_pos id.notEmpty]
  rfl

theorem Clients.find_empty (clients : Clients) : clients.find "" = none := rfl

theorem Secrets.ownedBy_id (secrets : Secrets) (id : Client.Id) :
    secrets.ownedBy id.text = secrets.ofClient id := by
  unfold Secrets.ownedBy Secrets.ofClient Table.select
  congr 1
  funext s
  have hsame : s.owner.text = id.text ↔ s.owner = id := by
    rw [← Client.Id.mk.injEq s.owner.text s.owner.notEmpty id.text id.notEmpty]
  exact decide_eq_decide.mpr hsame

/-- No client has the empty text for its identifier. -/
theorem Secrets.ownedBy_empty (secrets : Secrets) : secrets.ownedBy "" = [] := by
  unfold Secrets.ownedBy Table.select
  rw [List.filter_eq_nil_iff]
  intro s _ h
  exact s.owner.notEmpty (of_decide_eq_true h)

theorem Secrets.owner_of_mem {secrets : Secrets} {text : String} {secret : Secret}
    (h : secret ∈ secrets.ownedBy text) : secret.owner.text = text := by
  have hp := (List.mem_filter.mp h).2
  simpa using hp

namespace Stores

/-- All three stores can be reached. -/
structure Up (s : Stores) : Prop where
  clients : .configurations ∉ s.down
  secrets : .secrets ∉ s.down
  tokens : .tokens ∉ s.down

variable {α : Type} {s : Stores} {store : Name} {answer : α}

theorem call_of_up (h : store ∉ s.down) : s.call store answer = .ok answer := if_neg h

/-- A store answers or cannot be reached. -/
theorem call_cases (s : Stores) (store : Name) (answer : α) :
    s.call store answer = .error ⟨store⟩ ∨ s.call store answer = .ok answer := by
  by_cases hdown : store ∈ s.down
  · exact .inl (if_pos hdown)
  · exact .inr (call_of_up hdown)

end Stores

end TokenIssuer.Store
