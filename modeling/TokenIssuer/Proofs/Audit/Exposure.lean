import TokenIssuer.Audit
import TokenIssuer.Proofs.Text
import TokenIssuer.Proofs.Text.Order

/-!
What an audit event shows of credentials in its metadata. Those at the top are hidden by their
names; a list or an object is written out whole, with the credentials inside it.
-/

namespace TokenIssuer

/-! ## Values as they are written out -/

namespace Json

variable {v w : Json}

/-- A field as it is written inside an object. -/
def literalField (field : String × Json) : List Char :=
  Text.quote field.1.toList ++ ": ".toList ++ literalChars field.2

theorem literalItems_eq_map (items : List Json) : literalItems items = items.map literalChars := by
  induction items with
  | nil => rfl
  | cons v vs ih => rw [literalItems, ih, List.map_cons]

theorem literalFields_eq_map (fields : List (String × Json)) :
    literalFields fields = fields.map literalField := by
  induction fields with
  | nil => rfl
  | cons field fields ih =>
    obtain ⟨name, v⟩ := field
    rw [literalFields, ih, List.map_cons]
    rfl

/-- A list shows each of its items. -/
theorem literalChars_arr_ne (h : literalChars v ≠ literalChars w) (front back : List Json) :
    literalChars (.arr (front ++ v :: back)) ≠ literalChars (.arr (front ++ w :: back)) := by
  obtain ⟨left, right, hjoin⟩ :=
    Text.exists_join_eq ", ".toList (front.map literalChars) (back.map literalChars)
  have hshown (u : Json) : literalChars (.arr (front ++ u :: back)) =
      '[' :: (left ++ literalChars u ++ right) ++ [']'] := by
    rw [literalChars, literalItems_eq_map, List.map_append, List.map_cons, hjoin]
  rw [hshown, hshown]
  intro he
  apply h
  exact List.append_cancel_left (List.append_cancel_right
    (List.append_cancel_right (List.cons.inj he).2))

/-- An object shows the value of each of its fields. -/
theorem literalChars_obj_ne (h : literalChars v ≠ literalChars w) (name : String)
    (front back : List (String × Json)) :
    literalChars (.obj (front ++ (name, v) :: back)) ≠
      literalChars (.obj (front ++ (name, w) :: back)) := by
  obtain ⟨left, right, hjoin⟩ :=
    Text.exists_join_eq ", ".toList (front.map literalField) (back.map literalField)
  have hshown (u : Json) : literalChars (.obj (front ++ (name, u) :: back)) =
      '{' :: (left ++ literalField (name, u) ++ right) ++ ['}'] := by
    rw [literalChars, literalFields_eq_map, List.map_append, List.map_cons, hjoin]
  rw [hshown, hshown]
  intro he
  apply h
  have hfield : literalField (name, v) = literalField (name, w) :=
    List.append_cancel_left (List.append_cancel_right
      (List.append_cancel_right (List.cons.inj he).2))
  exact List.append_cancel_left hfield

/-- No value is written like all truth values. -/
theorem exists_literalChars_ne (v : Json) : ∃ b, literalChars v ≠ literalChars (.bool b) := by
  have hdiffer : literalChars (.bool true) ≠ literalChars (.bool false) := by decide
  by_cases h : literalChars v = literalChars (.bool true)
  · exact ⟨false, fun he => hdiffer (h.symm.trans he)⟩
  · exact ⟨true, h⟩

end Json

namespace Audit

open Http

variable {v w : Json} {items others : List Json} {fields other : List (String × Json)}

/-! ## Credentials inside values -/

/-- Somewhere inside the value there is a credential: a value, other than null, of a sensitive
name. -/
inductive Bears : Json → Prop where
  | item {items : List Json} {v : Json} (h : v ∈ items) (inside : Bears v) : Bears (.arr items)
  | field {fields : List (String × Json)} {field : String × Json} (h : field ∈ fields)
      (inside : Bears field.2) : Bears (.obj fields)
  | credential {fields : List (String × Json)} {field : String × Json} (h : field ∈ fields)
      (sensitive : isSensitive field.1 = true) (there : field.2 ≠ .null) : Bears (.obj fields)

mutual

/-- The values are the same but for credentials inside them. -/
inductive Alike : Json → Json → Prop where
  | same (v : Json) : Alike v v
  | arr {items others : List Json} (h : AlikeItems items others) : Alike (.arr items) (.arr others)
  | obj {fields others : List (String × Json)} (h : AlikeFields fields others) :
      Alike (.obj fields) (.obj others)

inductive AlikeItems : List Json → List Json → Prop where
  | nil : AlikeItems [] []
  | cons {v w : Json} {items others : List Json} (item : Alike v w)
      (rest : AlikeItems items others) : AlikeItems (v :: items) (w :: others)

/-- The fields have the same names in the same order, and the same values but for credentials. -/
inductive AlikeFields : List (String × Json) → List (String × Json) → Prop where
  | nil : AlikeFields [] []
  | cons {name : String} {v w : Json} {fields others : List (String × Json)} (value : Alike v w)
      (rest : AlikeFields fields others) : AlikeFields ((name, v) :: fields) ((name, w) :: others)
  | credential {name : String} {v w : Json} {fields others : List (String × Json)}
      (sensitive : isSensitive name = true) (there : v ≠ .null) (also : w ≠ .null)
      (rest : AlikeFields fields others) : AlikeFields ((name, v) :: fields) ((name, w) :: others)

end

/-- Some field is not hidden by its name, and has credentials inside it. -/
def Exposed (metadata : Log.Fields) : Prop :=
  ∃ field ∈ metadata, isSensitive field.1 = false ∧ Bears field.2

theorem AlikeItems.refl : (items : List Json) → AlikeItems items items
  | [] => .nil
  | v :: items => .cons (.same v) (.refl items)

theorem AlikeFields.refl : (fields : List (String × Json)) → AlikeFields fields fields
  | [] => .nil
  | (_, v) :: fields => .cons (.same v) (.refl fields)

theorem AlikeItems.append (front : List Json) (h : AlikeItems items others) :
    AlikeItems (front ++ items) (front ++ others) := by
  induction front with
  | nil => exact h
  | cons v front ih => exact .cons (.same v) ih

theorem AlikeFields.append (front : List (String × Json)) (h : AlikeFields fields other) :
    AlikeFields (front ++ fields) (front ++ other) := by
  induction front with
  | nil => exact h
  | cons field front ih => exact .cons (.same field.2) ih

theorem Alike.eq_null_iff (h : Alike v w) : v = .null ↔ w = .null := by
  cases h with
  | same => rfl
  | arr | obj => exact iff_of_false (fun he => by cases he) fun he => by cases he

mutual

/-- Values without credentials inside them are alike only when they are the same. -/
theorem Alike.eq_of_not_bears {v w : Json} : Alike v w → ¬ Bears v → v = w
  | .same _, _ => rfl
  | .arr h, hv => congrArg Json.arr (h.eq_of_not_bears fun _ hu inside => hv (.item hu inside))
  | .obj h, hv =>
    congrArg Json.obj (h.eq_of_not_bears (fun _ hf inside => hv (.field hf inside))
      fun _ hf sensitive there => hv (.credential hf sensitive there))

theorem AlikeItems.eq_of_not_bears {items others : List Json} :
    AlikeItems items others → (∀ v ∈ items, ¬ Bears v) → items = others
  | .nil, _ => rfl
  | .cons item rest, inside => by
    obtain ⟨hv, hitems⟩ := List.forall_mem_cons.mp inside
    rw [item.eq_of_not_bears hv, rest.eq_of_not_bears hitems]

theorem AlikeFields.eq_of_not_bears {fields others : List (String × Json)} :
    AlikeFields fields others → (∀ f ∈ fields, ¬ Bears f.2) →
      (∀ f ∈ fields, isSensitive f.1 = true → ¬ f.2 ≠ .null) → fields = others
  | .nil, _, _ => rfl
  | .cons value rest, inside, here => by
    obtain ⟨hv, hfields⟩ := List.forall_mem_cons.mp inside
    rw [value.eq_of_not_bears hv,
      rest.eq_of_not_bears hfields fun f hf => here f (List.mem_cons_of_mem _ hf)]
  | .credential sensitive there _ _, _, here =>
    absurd there (here _ List.mem_cons_self sensitive)

end

/-! ## Credentials that are written out -/

/-- What a value is written as depends on each credential inside it. -/
theorem Bears.exists_alike_ne (h : Bears v) :
    ∃ w, Alike v w ∧ v.literalChars ≠ w.literalChars := by
  induction h with
  | item hv _ ih =>
    obtain ⟨w, halike, hne⟩ := ih
    obtain ⟨front, back, rfl⟩ := List.append_of_mem hv
    exact ⟨_, .arr (.append front (.cons halike (.refl back))),
      Json.literalChars_arr_ne hne front back⟩
  | @field _ field hfield _ ih =>
    obtain ⟨w, halike, hne⟩ := ih
    obtain ⟨front, back, rfl⟩ := List.append_of_mem hfield
    exact ⟨_, .obj (.append front (.cons halike (.refl back))),
      Json.literalChars_obj_ne hne field.1 front back⟩
  | @credential _ field hfield sensitive there =>
    obtain ⟨b, hne⟩ := Json.exists_literalChars_ne field.2
    obtain ⟨front, back, rfl⟩ := List.append_of_mem hfield
    have also : Json.bool b ≠ .null := fun he => by cases he
    exact ⟨_, .obj (.append front (.credential sensitive there also (.refl back))),
      Json.literalChars_obj_ne hne field.1 front back⟩

theorem Bears.literal_eq (h : Bears v) : v.literal = String.ofList v.literalChars := by
  cases h <;> rfl

theorem Bears.ne_null (h : Bears v) : v ≠ .null := by
  intro he
  subst he
  cases h

/-- Lists and objects stay what they are. -/
theorem Alike.literal_eq (h : Alike v w) (bears : Bears v) :
    w.literal = String.ofList w.literalChars := by
  cases h with
  | same => exact bears.literal_eq
  | arr | obj => rfl

theorem Bears.exists_alike_literal_ne (h : Bears v) : ∃ w, Alike v w ∧ v.literal ≠ w.literal := by
  obtain ⟨w, halike, hne⟩ := h.exists_alike_ne
  refine ⟨w, halike, fun he => hne ?_⟩
  rw [h.literal_eq, halike.literal_eq h] at he
  exact String.ofList_inj.mp he

/-- The items of a list can be told apart in whatever order they are shown. -/
theorem plain_arr_ne (h : v.literal ≠ w.literal) (front back : List Json) :
    plain (.arr (front ++ v :: back)) ≠ plain (.arr (front ++ w :: back)) := by
  intro he
  have hsorted : Text.sortTexts ((front ++ v :: back).map Json.literal) =
      Text.sortTexts ((front ++ w :: back).map Json.literal) :=
    List.map_inj_right (fun _ _ => Json.str.inj) |>.mp (Json.arr.inj he)
  have hperm : ((front ++ v :: back).map Json.literal).Perm
      ((front ++ w :: back).map Json.literal) :=
    (Text.perm_sortTexts _).symm.trans (hsorted ▸ Text.perm_sortTexts _)
  rw [List.map_append, List.map_append, List.perm_append_left_iff, List.map_cons, List.map_cons,
    ← List.singleton_append, ← List.singleton_append (l := back.map Json.literal),
    List.perm_append_right_iff, List.perm_singleton] at hperm
  exact h (List.singleton_inj.mp hperm)

theorem Bears.exists_plain_obj_ne (h : Bears (.obj fields)) :
    ∃ w, Alike (.obj fields) w ∧ plain (.obj fields) ≠ plain w := by
  obtain ⟨w, halike, hne⟩ := h.exists_alike_literal_ne
  refine ⟨w, halike, fun he => hne ?_⟩
  cases halike with
  | same => rfl
  | obj => exact Json.str.inj he

/-- The plain form of a value depends on the credentials inside it. -/
theorem Bears.exists_plain_ne (h : Bears v) : ∃ w, Alike v w ∧ plain v ≠ plain w := by
  cases h with
  | item hv inside =>
    obtain ⟨w, halike, hne⟩ := inside.exists_alike_literal_ne
    obtain ⟨front, back, rfl⟩ := List.append_of_mem hv
    exact ⟨_, .arr (.append front (.cons halike (.refl back))), plain_arr_ne hne front back⟩
  | field hfield inside => exact (Bears.field hfield inside).exists_plain_obj_ne
  | credential hfield sensitive there =>
    exact (Bears.credential hfield sensitive there).exists_plain_obj_ne

/-! ## What is logged -/

theorem sanitizeField_of_ne_null {name : String} (h : v ≠ .null) :
    sanitizeField (name, v) =
      some (name, if isSensitive name then .str Log.redacted else plain v) := by
  cases v with
  | null => exact absurd rfl h
  | _ => rfl

/-- Under a sensitive name only the absence of a value shows. -/
theorem sanitizeField_of_sensitive {name : String} (sensitive : isSensitive name = true)
    (h : v = .null ↔ w = .null) : sanitizeField (name, v) = sanitizeField (name, w) := by
  by_cases hv : v = .null
  · rw [hv, h.mp hv]
  · have hw : w ≠ .null := fun he => hv (h.mpr he)
    rw [sanitizeField_of_ne_null hv, sanitizeField_of_ne_null hw, sensitive]
    rfl

theorem sanitize_append (front back : Log.Fields) :
    sanitize (front ++ back) = sanitize front ++ sanitize back :=
  List.filterMap_append

theorem sanitize_cons_congr {field also : String × Json} {fields others : Log.Fields}
    (h : sanitizeField field = sanitizeField also) (rest : sanitize fields = sanitize others) :
    sanitize (field :: fields) = sanitize (also :: others) := by
  unfold sanitize at rest ⊢
  rw [List.filterMap_cons, List.filterMap_cons, h, rest]

theorem not_exposed_of_cons {field : String × Json} {fields : Log.Fields}
    (h : ¬ Exposed (field :: fields)) : ¬ Exposed fields := by
  rintro ⟨f, hf, inside⟩
  exact h ⟨f, List.mem_cons_of_mem _ hf, inside⟩

/-- Of metadata that is alike the same is shown, if no credentials are exposed in it. -/
theorem sanitize_eq_of_not_exposed {metadata others : Log.Fields} :
    AlikeFields metadata others → ¬ Exposed metadata → sanitize metadata = sanitize others
  | .nil, _ => rfl
  | @AlikeFields.cons name v w _ _ value rest, h => by
    refine sanitize_cons_congr ?_ (sanitize_eq_of_not_exposed rest (not_exposed_of_cons h))
    cases hname : isSensitive name with
    | true => exact sanitizeField_of_sensitive hname value.eq_null_iff
    | false =>
      have hv : ¬ Bears v := fun inside => h ⟨_, List.mem_cons_self, hname, inside⟩
      rw [value.eq_of_not_bears hv]
  | .credential sensitive there also rest, h =>
    sanitize_cons_congr (sanitizeField_of_sensitive sensitive (iff_of_false there also))
      (sanitize_eq_of_not_exposed rest (not_exposed_of_cons h))

theorem Exposed.exists_sanitize_ne {metadata : Log.Fields} (h : Exposed metadata) :
    ∃ others, AlikeFields metadata others ∧ sanitize metadata ≠ sanitize others := by
  obtain ⟨⟨name, v⟩, hfield, hname, inside⟩ := h
  obtain ⟨w, halike, hne⟩ := inside.exists_plain_ne
  obtain ⟨front, back, rfl⟩ := List.append_of_mem hfield
  refine ⟨_, .append front (.cons halike (.refl back)), fun he => hne ?_⟩
  have hv := inside.ne_null
  have hw : w ≠ .null := fun hw => hv (halike.eq_null_iff.mpr hw)
  have hshown (u : Json) (hu : u ≠ .null) : sanitize (front ++ (name, u) :: back) =
      sanitize front ++ (name, plain u) :: sanitize back := by
    rw [sanitize_append]
    unfold sanitize
    rw [List.filterMap_cons, sanitizeField_of_ne_null hu, hname]
    rfl
  rw [hshown v hv, hshown w hw] at he
  exact (Prod.mk.inj (List.cons.inj (List.append_cancel_left he)).1).2

theorem call_eq_iff (request : Request) (noted : Option Json) (event : Event)
    (metadata : Log.Fields) :
    event.call request noted = { event with metadata }.call request noted ↔
      sanitize event.metadata = sanitize metadata := by
  constructor
  · intro h
    have hlogged : some (Json.obj (sanitize event.metadata)) = some (.obj (sanitize metadata)) :=
      congrArg (fun call : Log.Call => List.lookup "metadata" call.fields) h
    exact Json.obj.inj (Option.some.inj hlogged)
  · intro h
    unfold Event.call
    rw [h]

/-- An event shows nothing of the credentials in its metadata exactly when none of them is inside
a list or an object whose own name is not sensitive. -/
theorem credentials_are_not_shown_iff (request : Request) (noted : Option Json) (event : Event) :
    (∀ metadata, AlikeFields event.metadata metadata →
        event.call request noted = { event with metadata }.call request noted) ↔
      ¬ Exposed event.metadata := by
  constructor
  · intro h exposed
    obtain ⟨metadata, halike, hne⟩ := exposed.exists_sanitize_ne
    exact hne ((call_eq_iff request noted event metadata).mp (h metadata halike))
  · intro h metadata halike
    exact (call_eq_iff request noted event metadata).mpr (sanitize_eq_of_not_exposed halike h)

/-- Metadata with a password inside an object. -/
def nestedPassword (password : String) : Log.Fields :=
  [("context", .obj [("password", .str password)])]

theorem sanitize_nestedPassword (password : String) :
    sanitize (nestedPassword password) =
      [("context", .str (Json.obj [("password", .str password)]).literal)] := by
  have hname : isSensitive "context" = false := by decide
  have hthere : Json.obj [("password", .str password)] ≠ .null := fun he => by cases he
  unfold sanitize nestedPassword
  rw [List.filterMap_cons, sanitizeField_of_ne_null hthere, hname]
  rfl

/-- The password is shown. -/
theorem nested_password_is_shown :
    AlikeFields (nestedPassword "hunter2") (nestedPassword "swordfish") ∧
      sanitize (nestedPassword "hunter2") = [("context", .str "\x7b'password': 'hunter2'\x7d")] ∧
      ∀ (request : Request) (noted : Option Json) (event : Event),
        { event with metadata := nestedPassword "hunter2" }.call request noted ≠
          { event with metadata := nestedPassword "swordfish" }.call request noted := by
  have hcredential : isSensitive "password" = true := by decide
  have hthere (password : String) : Json.str password ≠ .null := fun he => by cases he
  have hone : (Json.obj [("password", .str "hunter2")]).literal =
      "\x7b'password': 'hunter2'\x7d" := by decide +kernel
  have hother : (Json.obj [("password", .str "swordfish")]).literal =
      "\x7b'password': 'swordfish'\x7d" := by decide +kernel
  have hshown := sanitize_nestedPassword "hunter2"
  rw [hone] at hshown
  refine ⟨.cons (.obj (.credential hcredential (hthere _) (hthere _) .nil)) .nil, hshown, ?_⟩
  intro request noted event he
  have hsame := (call_eq_iff request noted _ (nestedPassword "swordfish")).mp he
  rw [hshown, sanitize_nestedPassword, hother] at hsame
  exact absurd (Json.str.inj (Prod.mk.inj (List.cons.inj hsame).1).2) (by decide)

end Audit

end TokenIssuer
