import TokenIssuer.Proofs.Http.Failure

/-! Header lines put into a response, and responses that differ in their correlation id only. -/

namespace TokenIssuer.Http

variable {name other value : String} {headers : Headers}

namespace Headers

/-- Setting a header changes no line of another name. -/
theorem erase_set (name value : String) (headers : Headers) :
    Assoc.erase name (headers.set name value) = Assoc.erase name headers := by
  have hidem (lines : Headers) :
      Assoc.erase name (Assoc.erase name lines) = Assoc.erase name lines := by
    unfold Assoc.erase
    rw [List.filter_filter]
    simp only [Bool.and_self]
  induction headers with
  | nil => simp [set, Assoc.erase]
  | cons line rest ih =>
    rw [set]
    by_cases hl : line.1 = name
    · have hline (v : String) (lines : Headers) :
          Assoc.erase name ((name, v) :: lines) = Assoc.erase name lines :=
        List.filter_cons_of_neg (by simp)
      have hrest : Assoc.erase name (line :: rest) = Assoc.erase name rest :=
        List.filter_cons_of_neg (by simp [hl])
      rw [if_pos hl, hline, hidem, hrest]
    · have hkeep (lines : Headers) :
          Assoc.erase name (line :: lines) = line :: Assoc.erase name lines :=
        List.filter_cons_of_pos (by simpa using hl)
      rw [if_neg hl, hkeep, hkeep, ih]

/-- A header that is set is there with that value only. -/
theorem eq_of_mem_set {name value other : String} {headers : Headers}
    (h : (name, other) ∈ headers.set name value) : other = value := by
  induction headers with
  | nil => exact congrArg Prod.snd (List.mem_singleton.mp h)
  | cons line rest ih =>
    rw [set] at h
    by_cases hl : line.1 = name
    · rw [if_pos hl] at h
      rcases List.mem_cons.mp h with hset | herased
      · exact congrArg Prod.snd hset
      · exact absurd rfl (of_decide_eq_true (List.mem_filter.mp herased).2)
    · rw [if_neg hl] at h
      rcases List.mem_cons.mp h with rfl | hrest
      · exact absurd rfl hl
      · exact ih hrest

/-- The lines of a name. -/
def named (name : String) (headers : Headers) : Headers := headers.filter (·.1 = name)

theorem named_set_of_ne (h : other ≠ name) (value : String) (headers : Headers) :
    (headers.set name value).named other = headers.named other := by
  have hset (lines : Headers) : named other ((name, value) :: lines) = named other lines :=
    List.filter_cons_of_neg (by simpa using Ne.symm h)
  have herase (lines : Headers) : named other (Assoc.erase name lines) = named other lines := by
    unfold named Assoc.erase
    rw [List.filter_filter]
    refine List.filter_congr fun line _ => ?_
    by_cases hl : line.1 = other
    · simp [hl, h]
    · simp [hl]
  induction headers with
  | nil => exact hset []
  | cons line rest ih =>
    rw [set]
    split
    next hl =>
      have hline : named other (line :: rest) = named other rest :=
        List.filter_cons_of_neg (by simpa [hl] using Ne.symm h)
      rw [hset, herase, hline]
    next =>
      unfold named at ih ⊢
      rw [List.filter_cons, List.filter_cons, ih]

end Headers

theorem lookup_putNew_of_ne (h : other ≠ name) (value : String) (headers : Headers) :
    (Assoc.putNew name value headers).lookup other = headers.lookup other := by
  have hne : (other == name) = false := beq_eq_false_iff_ne.mpr h
  unfold Assoc.putNew
  split
  · rfl
  · simp [List.lookup_append, List.lookup_cons, hne]

/-- Several headers, each put unless there is one of its name. -/
def putDefaults (defaults headers : Headers) : Headers :=
  defaults.foldl (fun acc h => Assoc.putNew (Text.lowered h.1) h.2 acc) headers

theorem lookup_putDefaults_of_notMem {defaults : Headers}
    (h : other ∉ defaults.map fun d => Text.lowered d.1) (headers : Headers) :
    (putDefaults defaults headers).lookup other = headers.lookup other := by
  induction defaults generalizing headers with
  | nil => rfl
  | cons d defaults ih =>
    rw [List.map_cons, List.mem_cons, not_or] at h
    show (putDefaults defaults (Assoc.putNew (Text.lowered d.1) d.2 headers)).lookup other = _
    rw [ih h.2, lookup_putNew_of_ne h.1]

theorem named_putNew_of_ne (h : other ≠ name) (value : String) (headers : Headers) :
    Headers.named other (Assoc.putNew name value headers) = headers.named other := by
  unfold Assoc.putNew Headers.named
  split
  · rfl
  · rw [List.filter_append, List.filter_cons_of_neg (by simpa using Ne.symm h), List.filter_nil,
      List.append_nil]

theorem named_putDefaults_of_notMem {defaults : Headers}
    (h : other ∉ defaults.map fun d => Text.lowered d.1) (headers : Headers) :
    (putDefaults defaults headers).named other = headers.named other := by
  induction defaults generalizing headers with
  | nil => rfl
  | cons d defaults ih =>
    rw [List.map_cons, List.mem_cons, not_or] at h
    show (putDefaults defaults (Assoc.putNew (Text.lowered d.1) d.2 headers)).named other = _
    rw [ih h.2, named_putNew_of_ne h.1]

/-- A response without the header that carries the correlation id. -/
def Response.untraced (response : Response) : Response :=
  { response with headers := Assoc.erase Request.correlationHeader response.headers }

end TokenIssuer.Http
