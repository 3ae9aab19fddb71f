import TokenIssuer.Http.Route

/-! Which route a request finds. -/

namespace TokenIssuer.Http

/-- The path is the one of a plain template; a line feed may follow it. -/
def IsAt (path plain : String) : Prop := path = plain ∨ path = plain ++ "\n"

instance (path plain : String) : Decidable (IsAt path plain) :=
  inferInstanceAs (Decidable (_ ∨ _))

/-- A path is the one of two templates only when one of these is a path of the other. -/
theorem IsAt.of_both {path plain other : String} (h : IsAt path plain) (ho : IsAt path other) :
    IsAt plain other ∨ IsAt other plain := by
  rcases h with rfl | rfl
  · exact .inl ho
  · rcases ho with hsame | hsame
    · exact .inr (.inr hsame.symm)
    · have he : plain.toList ++ "\n".toList = other.toList ++ "\n".toList := by
        rw [← String.toList_append, hsame, String.toList_append]
      exact .inl (.inl (String.toList_inj.mp (List.append_cancel_right he)))

/-- The request is sent to the path by the method. -/
def Request.Is (request : Request) (method plain : String) : Prop :=
  request.method = method ∧ IsAt request.path plain

instance (request : Request) (method plain : String) : Decidable (request.Is method plain) :=
  inferInstanceAs (Decidable (_ ∧ _))

theorem captures?_char (cs s : List Char) :
    captures? (cs.map .char) s = if s = cs ∨ s = cs ++ ['\n'] then some [] else none := by
  induction cs generalizing s with
  | nil => rfl
  | cons c cs ih =>
    rw [List.map_cons]
    cases s with
    | nil => simp [captures?]
    | cons d ds =>
      rw [captures?]
      by_cases h : c = d
      · subst h
        rw [if_pos rfl, ih]
        simp only [List.cons_append, List.cons.injEq, true_and]
      · rw [if_neg h, if_neg]
        simp only [List.cons_append, List.cons.injEq, Ne.symm h, false_and, or_self,
          not_false_eq_true]

theorem Template.match?_plain (plain path : String) :
    (Template.plain plain).match? path = if IsAt path plain then some [] else none := by
  unfold Template.match? Template.plain
  rw [captures?_char]
  have hsame : path.toList = plain.toList ↔ path = plain := String.toList_inj
  have hfeed : path.toList = plain.toList ++ ['\n'] ↔ path = plain ++ "\n" := by
    rw [← String.toList_inj, String.toList_append]
    rfl
  by_cases h : IsAt path plain
  · rw [if_pos h, if_pos (by rw [hsame, hfeed]; exact h)]
  · rw [if_neg h, if_neg (by rw [hsame, hfeed]; exact h)]

namespace Route

variable {α : Type} {request : Request} {routes : List (Route α)} {r : Route α}

theorem fitsPath_plain (plain path : String) (methods : List String) (endpoint : Endpoint α) :
    fitsPath ⟨.plain plain, methods, endpoint⟩ path = .ok (decide (IsAt path plain)) := by
  unfold fitsPath
  rw [Template.match?_plain]
  by_cases h : IsAt path plain
  · rw [if_pos h, decide_eq_true h]
    rfl
  · rw [if_neg h, decide_eq_false h]

theorem firstFor_congr {other : Request} (method : request.method = other.method)
    (path : request.path = other.path) (found : Option (Route α)) (routes : List (Route α)) :
    firstFor request found routes = firstFor other found routes := by
  induction routes generalizing found with
  | nil => rfl
  | cons r rest ih =>
    rw [firstFor, firstFor, path, method]
    simp only [ih]

/-- A route is found by the method and the path alone. -/
theorem find_congr {other : Request} (method : request.method = other.method)
    (path : request.path = other.path) (routes : List (Route α)) :
    find routes request = find routes other := by
  unfold find
  rw [firstFor_congr method path, path]

/-- A route that is found is one of the routes, its template fits the path, and it takes the
method. -/
theorem of_firstFor {other : Option (Route α)}
    (h : firstFor request other routes = .ok (.route r)) :
    r ∈ routes ∧ r.fitsPath request.path = .ok true ∧ request.method ∈ r.methods := by
  induction routes generalizing other with
  | nil =>
    rw [firstFor] at h
    cases other <;> exact absurd h (by simp)
  | cons s rest ih =>
    rw [firstFor] at h
    cases hf : s.fitsPath request.path with
    | error fault => rw [hf] at h; exact absurd h (by simp [bind, Except.bind])
    | ok fits =>
      rw [hf] at h
      cases fits with
      | false =>
        obtain ⟨hm, hr⟩ := ih h
        exact ⟨List.mem_cons_of_mem s hm, hr⟩
      | true =>
        simp only [bind, Except.bind, if_true] at h
        split at h
        next hm =>
          cases h
          exact ⟨List.mem_cons_self, hf, hm⟩
        next =>
          obtain ⟨hm, hr⟩ := ih h
          exact ⟨List.mem_cons_of_mem s hm, hr⟩

theorem of_find (h : find routes request = .ok (.route r)) :
    r ∈ routes ∧ r.fitsPath request.path = .ok true ∧ request.method ∈ r.methods := by
  unfold find at h
  cases hf : firstFor request none routes with
  | error fault => rw [hf] at h; exact absurd h (by simp [bind, Except.bind])
  | ok found =>
    rw [hf] at h
    cases found with
    -- Nothing for this path: at most a redirection to another one comes of it.
    | nothing =>
      cases ha : anyFor (toggled request.path) routes with
      | error fault => rw [ha] at h; exact absurd h (by simp [bind, Except.bind])
      | ok some =>
        rw [ha] at h
        simp only [bind, Except.bind, pure, Except.pure] at h
        split at h <;> exact absurd h (by simp)
    | route s =>
      cases h
      exact of_firstFor hf
    | otherMethod s => exact absurd h (by simp [bind, Except.bind, pure, Except.pure])
    | otherPath path => exact absurd h (by simp [bind, Except.bind, pure, Except.pure])

/-- Templates without numbers in them are looked through to the end. -/
theorem firstFor_total (request : Request) (other : Option (Route α))
    (h : ∀ r ∈ routes, ∃ fits, r.fitsPath request.path = .ok fits) :
    ∃ found, firstFor request other routes = .ok found := by
  induction routes generalizing other with
  | nil => exact ⟨_, rfl⟩
  | cons r rest ih =>
    obtain ⟨fits, hf⟩ := h r List.mem_cons_self
    have hrest (other : Option (Route α)) := ih other fun s hs => h s (List.mem_cons_of_mem r hs)
    rw [firstFor, hf]
    cases fits with
    | false => exact hrest other
    | true =>
      by_cases hm : request.method ∈ r.methods
      · exact ⟨.route r, if_pos hm⟩
      · obtain ⟨found, hfound⟩ := hrest (other <|> some r)
        exact ⟨found, (if_neg hm).trans hfound⟩

theorem anyFor_total (path : String) (h : ∀ r ∈ routes, ∃ fits, r.fitsPath path = .ok fits) :
    ∃ any, anyFor path routes = .ok any := by
  induction routes with
  | nil => exact ⟨_, rfl⟩
  | cons r rest ih =>
    obtain ⟨fits, hf⟩ := h r List.mem_cons_self
    rw [anyFor, hf]
    cases fits with
    | false => exact ih fun s hs => h s (List.mem_cons_of_mem r hs)
    | true => exact ⟨true, rfl⟩

theorem find_total (request : Request)
    (h : ∀ r ∈ routes, ∀ path, ∃ fits, r.fitsPath path = .ok fits) :
    ∃ found, find routes request = .ok found := by
  obtain ⟨first, hfirst⟩ := firstFor_total request none fun r hr => h r hr request.path
  obtain ⟨any, hany⟩ := anyFor_total (toggled request.path) fun r hr => h r hr _
  unfold find
  rw [hfirst]
  cases first with
  | nothing =>
    simp only [bind, Except.bind, hany]
    split <;> exact ⟨_, rfl⟩
  | _ => exact ⟨_, rfl⟩

/-- A route that is found to take other methods is one of the routes, and its template fits the
path. -/
theorem other_of_firstFor {other : Option (Route α)}
    (h : firstFor request other routes = .ok (.otherMethod r)) :
    r ∈ routes ∧ r.fitsPath request.path = .ok true ∨ other = some r := by
  induction routes generalizing other with
  | nil =>
    rw [firstFor] at h
    cases other with
    | none => cases h
    | some s => cases h; exact .inr rfl
  | cons s rest ih =>
    rw [firstFor] at h
    cases hf : s.fitsPath request.path with
    | error fault => rw [hf] at h; exact absurd h (by simp [bind, Except.bind])
    | ok fits =>
      rw [hf] at h
      cases fits with
      | false => exact (ih h).imp_left fun hr => ⟨List.mem_cons_of_mem s hr.1, hr.2⟩
      | true =>
        simp only [bind, Except.bind, if_true] at h
        split at h
        next => cases h
        next =>
          rcases ih h with hr | hr
          · exact .inl ⟨List.mem_cons_of_mem s hr.1, hr.2⟩
          · cases other with
            | none => cases hr; exact .inl ⟨List.mem_cons_self, hf⟩
            | some t => exact .inr hr

/-- Where nothing is found, no template fits the path. -/
theorem unfit_of_firstFor {other : Option (Route α)}
    (h : firstFor request other routes = .ok .nothing) :
    other = none ∧ ∀ r ∈ routes, r.fitsPath request.path = .ok false := by
  induction routes generalizing other with
  | nil =>
    rw [firstFor] at h
    cases other with
    | none => exact ⟨rfl, List.forall_mem_nil _⟩
    | some s => cases h
  | cons s rest ih =>
    rw [firstFor] at h
    cases hf : s.fitsPath request.path with
    | error fault => rw [hf] at h; exact absurd h (by simp [bind, Except.bind])
    | ok fits =>
      rw [hf] at h
      cases fits with
      | false =>
        obtain ⟨hother, hrest⟩ := ih h
        exact ⟨hother, List.forall_mem_cons.mpr ⟨hf, hrest⟩⟩
      | true =>
        simp only [bind, Except.bind, if_true] at h
        split at h
        next => cases h
        next => cases other <;> exact absurd (ih h).1 (by simp)

theorem firstFor_ne_otherPath {other : Option (Route α)} (path : String) :
    firstFor request other routes ≠ .ok (.otherPath path) := by
  intro h
  induction routes generalizing other with
  | nil => cases other <;> cases h
  | cons s rest ih =>
    rw [firstFor] at h
    cases hf : s.fitsPath request.path with
    | error fault => rw [hf] at h; exact absurd h (by simp [bind, Except.bind])
    | ok fits =>
      rw [hf] at h
      cases fits with
      | false => exact ih h
      | true =>
        simp only [bind, Except.bind, if_true] at h
        split at h
        next => cases h
        next => exact ih h

/-- What the first look finds is what is found, or it found nothing and the path is looked at once
more. -/
theorem find_cases {found : Found α} (h : find routes request = .ok found) :
    firstFor request none routes = .ok found ∨
      firstFor request none routes = .ok .nothing ∧
        (found = .nothing ∨ ∃ path, found = .otherPath path) := by
  unfold find at h
  cases hf : firstFor request none routes with
  | error fault => rw [hf] at h; exact absurd h (by simp [bind, Except.bind])
  | ok first =>
    rw [hf] at h
    cases first with
    | nothing =>
      cases ha : anyFor (toggled request.path) routes with
      | error fault => rw [ha] at h; exact absurd h (by simp [bind, Except.bind])
      | ok some =>
        rw [ha] at h
        simp only [bind, Except.bind, pure, Except.pure] at h
        split at h
        · cases h
          exact .inr ⟨rfl, .inr ⟨_, rfl⟩⟩
        · cases h
          exact .inl rfl
    | route s => exact .inl h
    | otherMethod s => exact .inl h
    | otherPath path => exact .inl h

theorem other_of_find (h : find routes request = .ok (.otherMethod r)) :
    r ∈ routes ∧ r.fitsPath request.path = .ok true := by
  rcases find_cases h with hf | ⟨-, he | ⟨path, he⟩⟩
  · exact (other_of_firstFor hf).resolve_right (by simp)
  · cases he
  · cases he

theorem unfit_of_find {found : Found α} (h : find routes request = .ok found)
    (missed : found = .nothing ∨ ∃ path, found = .otherPath path) :
    ∀ r ∈ routes, r.fitsPath request.path = .ok false := by
  rcases find_cases h with hf | ⟨hf, -⟩
  · rcases missed with rfl | ⟨path, rfl⟩
    · exact (unfit_of_firstFor hf).2
    · exact absurd hf (firstFor_ne_otherPath path)
  · exact (unfit_of_firstFor hf).2

/-- A route that takes the request is found when it alone is for the path. -/
theorem find_of_alone (hr : r ∈ routes) (fits : r.fitsPath request.path = .ok true)
    (method : request.method ∈ r.methods)
    (alone : ∀ s ∈ routes, s ≠ r → s.fitsPath request.path = .ok false) :
    find routes request = .ok (.route r) := by
  have hfirst (other : Option (Route α)) : firstFor request other routes = .ok (.route r) := by
    -- The routes before it do not fit the path, so that they leave `other` alone.
    induction routes generalizing other with
    | nil => exact absurd hr List.not_mem_nil
    | cons s rest ih =>
      rw [firstFor]
      by_cases hs : s = r
      · rw [hs, fits]
        exact if_pos method
      · rw [alone s List.mem_cons_self hs]
        have hrest : r ∈ rest := (List.mem_cons.mp hr).resolve_left (Ne.symm hs)
        exact ih hrest (fun t ht => alone t (List.mem_cons_of_mem s ht)) other
  unfold find
  rw [hfirst]
  rfl

end Route

end TokenIssuer.Http
