import Mathlib.Data.List.Dedup
import Mathlib.Data.List.Perm.Subperm
import Mathlib.Data.List.ProdSigma
import TokenIssuer.Proofs.Service.Contract
import TokenIssuer.Proofs.Service.Traffic

/-!
How many label sets the counts can have. The statuses and the labels of token requests come from
fixed lists, and so do the paths that there are routes for; any other path is a label of its own,
and so is every method.
-/

namespace TokenIssuer.Service

open Http Store

variable {app : Application} {frame : Frame} {state : State Data}

/-! ## The statuses -/

/-- The statuses that requests are answered with. -/
def statuses : List Int := [200, 307, 400, 401, 403, 404, 405, 415, 500, 503]

theorem Fares.status_mem {own : Response} (fares : Fares app frame state own) :
    own.status ∈ statuses := by
  unfold statuses
  cases fares with
  | @decided _ _ decision _ _ same =>
    rcases status_decidedResponse decision with h | h <;> rw [same, h] <;> decide
  | barred _ status => rw [status]; decide
  | unread _ status => rcases status with h | h <;> rw [h] <;> decide
  | elsewhere _ status => rcases status with h | h <;> rw [h] <;> decide
  | otherwise status => rcases status with h | h | h | h | h <;> rw [h] <;> decide

theorem status_routed (app : Application) (frame : Frame) (state : State Data) :
    Layer.statusOf (routed app frame state).answer ∈ statuses := by
  rw [routed_answer]
  cases h : answered app (inside frame) (replied app frame state).result with
  | error fault => exact (by decide : (500 : Int) ∈ statuses)
  | ok own => exact ((returns_replied app frame state).fares h).status_mem

/-! ## What one request adds -/

/-- There is a route for the path of the request. -/
def Routed (request : Request) : Prop := ∃ template ∈ templates, IsAt request.path template

theorem pathLabel_of_isAt {request : Request} {template : String} (h : template ∈ templates)
    (fits : IsAt request.path template) : pathLabel request = template := by
  rw [pathLabel, find?_templates h fits, Option.getD_some]

theorem pathLabel_of_not_routed {request : Request} (h : ¬ Routed request) :
    pathLabel request = request.shownPath := by
  have hnone : (templates.find? fun plain => IsAt request.path plain) = none := by
    rw [List.find?_eq_none]
    intro template hmem
    rw [decide_eq_true_eq]
    exact fun fits => h ⟨template, hmem, fits⟩
  rw [pathLabel, hnone, Option.getD_none]

/-- The labels of a request: its method, the path of its route or else its own, and a status. -/
structure LabelledAs (request : Request) (labels : Metrics.Traffic) : Prop where
  method : labels.method = request.method
  status : labels.status ∈ statuses.map toString
  routed : ∀ template ∈ templates, IsAt request.path template → labels.path = template
  unrouted : ¬ Routed request → labels.path = request.shownPath

namespace Serving

variable {s : Serving} {labels : Metrics.Traffic}

theorem traffic?_of_readable (app : Application) (readable : s.request.addressFault? = none) :
    s.traffic? app = some (s.traffic (Layer.statusOf (routed app s.frame s.state).answer)) :=
  (agrees_of_readable app readable).traffic?

theorem of_traffic? (h : s.traffic? app = some labels) : ∃ status, s.traffic status = labels := by
  obtain ⟨response, -, htraffic⟩ := Option.map_eq_some_iff.mp h
  exact ⟨response.status, htraffic⟩

theorem labelledAs_of_traffic? (h : s.traffic? app = some labels) :
    LabelledAs s.request labels := by
  cases hreadable : s.request.addressFault? with
  | some fault => rw [traffic?_of_address hreadable] at h; cases h
  | none =>
    rw [traffic?_of_readable app hreadable] at h
    cases h
    exact ⟨rfl, List.mem_map_of_mem (status_routed app s.frame s.state),
      fun template hmem fits => pathLabel_of_isAt hmem fits, pathLabel_of_not_routed⟩

/-- A request that is answered is counted and timed under its labels, another one is not. -/
inductive Records (app : Application) (s : Serving) : Prop where
  | counted {labels : Metrics.Traffic} {before : Metrics.Registry}
      (traffic : s.traffic? app = some labels)
      (registry : (s.served app).state.registry = before.record labels s.seconds)
      (requests : before.requests = s.state.registry.requests)
      (durations : before.durations = s.state.registry.durations)
  | unnoticed (traffic : s.traffic? app = none) (same : (s.served app).state = s.state)

theorem records (app : Application) (s : Serving) : s.Records app := by
  cases hreadable : s.request.addressFault? with
  | some fault =>
    exact .unnoticed (traffic?_of_address hreadable) (served_of_address app hreadable).2.2
  | none =>
    have hr : s.frame.request.addressFault? = none := hreadable
    have hserved : s.served app = app.service.serve s.frame s.state := rfl
    obtain ⟨hrequests, hdurations⟩ := requests_replied app s.frame s.state
    refine .counted (traffic?_of_readable app hreadable) ?_ hrequests hdurations
    rw [hserved, serve_eq_of_readable app s.frame s.state hr, routed_route]
    rfl

theorem orderly_served (app : Application) (s : Serving) (h : s.state.registry.Orderly) :
    (s.served app).state.registry.Orderly := by
  cases s.records app with
  | counted _ registry requests durations =>
    rw [registry]
    exact (h.congr requests durations).record _ s.seconds
  | unnoticed _ same => rw [same]; exact h

theorem mem_labelSets_served (app : Application) (s : Serving) (labels : Metrics.Traffic) :
    labels ∈ (s.served app).state.registry.labelSets ↔
      s.traffic? app = some labels ∨ labels ∈ s.state.registry.labelSets := by
  cases s.records app with
  | @counted own before traffic registry requests _ =>
    have hbefore : before.labelSets = s.state.registry.labelSets := congrArg (List.map _) requests
    rw [registry, Metrics.Registry.mem_labelSets_record, hbefore, traffic, Option.some.injEq]
    exact or_congr_left eq_comm
  | unnoticed traffic same =>
    rw [same, traffic]
    simp

end Serving

/-! ## Runs -/

namespace Application

theorem orderly_run (app : Application) (stores : Stores) (steps : List Step) :
    (app.run ⟨.empty, stores⟩ steps).registry.Orderly :=
  app.registry_run_of_served (Serving.orderly_served app) ⟨.empty, stores⟩ steps
    Metrics.Registry.orderly_empty

theorem mem_labelSets_run (app : Application) (start : State Data) (steps : List Step)
    (labels : Metrics.Traffic) :
    labels ∈ (app.run start steps).registry.labelSets ↔
      labels ∈ start.registry.labelSets ∨
        ∃ s ∈ app.servings start steps, s.traffic? app = some labels := by
  induction steps generalizing start with
  | nil => simp [run_nil, servings]
  | cons step steps ih =>
    rw [run_cons, ih]
    cases step with
    | serve request fresh seconds =>
      have hserved : labels ∈ (app.step start (.serve request fresh seconds)).registry.labelSets ↔
          Serving.traffic? app ⟨start, request, fresh, seconds⟩ = some labels ∨
            labels ∈ start.registry.labelSets :=
        Serving.mem_labelSets_served app ⟨start, request, fresh, seconds⟩ labels
      rw [hserved, servings, List.exists_mem_cons_iff, or_assoc, or_left_comm]
    | change change => rfl

theorem mem_labelSets_run_empty (app : Application) (stores : Stores) (steps : List Step)
    (labels : Metrics.Traffic) :
    labels ∈ (app.run ⟨.empty, stores⟩ steps).registry.labelSets ↔
      ∃ s ∈ app.servings ⟨.empty, stores⟩ steps, s.traffic? app = some labels := by
  rw [mem_labelSets_run]
  have hempty : labels ∉ Metrics.Registry.empty.labelSets := List.not_mem_nil
  exact or_iff_right hempty

/-- The label sets after a run are those that requests were answered under, each one once. -/
theorem labelSets_run_perm (app : Application) (stores : Stores) (steps : List Step) :
    (app.run ⟨.empty, stores⟩ steps).registry.labelSets.Perm
      ((app.servings ⟨.empty, stores⟩ steps).filterMap (Serving.traffic? app)).dedup := by
  -- No label set is twice in either list, so that it is enough that their members are the same.
  refine (List.perm_ext_iff_of_nodup (app.orderly_run stores steps).distinct
    (List.nodup_dedup _)).mpr fun labels => ?_
  rw [mem_labelSets_run_empty, List.mem_dedup, List.mem_filterMap]

/-- There are at most as many label sets as there are choices of a method, a path and a status. -/
theorem length_labelSets_le (app : Application) (stores : Stores) (steps : List Step)
    {methods paths : List String}
    (h : ∀ s ∈ app.servings ⟨.empty, stores⟩ steps,
      s.request.method ∈ methods ∧ pathLabel s.request ∈ paths) :
    (app.run ⟨.empty, stores⟩ steps).registry.labelSets.length ≤
      methods.length * (paths.length * statuses.length) := by
  -- The label sets are among the choices, and none of them is there twice.
  let choices := (methods ×ˢ (paths ×ˢ statuses.map toString)).map
    fun choice => (⟨choice.1, choice.2.1, choice.2.2⟩ : Metrics.Traffic)
  have hchosen : (app.run ⟨.empty, stores⟩ steps).registry.labelSets ⊆ choices := by
    intro labels hmem
    obtain ⟨s, hs, htraffic⟩ := (app.mem_labelSets_run_empty stores steps labels).mp hmem
    obtain ⟨hmethod, hpath⟩ := h s hs
    have hstatus := (Serving.labelledAs_of_traffic? htraffic).status
    obtain ⟨status, rfl⟩ := Serving.of_traffic? htraffic
    exact List.mem_map_of_mem
      (List.mem_product.mpr ⟨hmethod, List.mem_product.mpr ⟨hpath, hstatus⟩⟩)
  have hlength : choices.length = methods.length * (paths.length * statuses.length) := by
    rw [List.length_map, List.length_product, List.length_product, List.length_map]
  rw [← hlength]
  exact (List.subperm_of_subset (app.orderly_run stores steps).distinct hchosen).length_le

end Application

/-! ## The labels of token requests -/

/-- The labels a token request can be counted under. -/
def outcomeLabels : List Metrics.Outcome :=
  (["missing", "unsupported", Client.Grant.password.name] ×ˢ
    ("issued" :: Grant.Code.all.map Grant.Code.text)).map fun choice => ⟨choice.1, choice.2⟩

theorem typeLabel_mem (grantType : Option String) :
    Grant.typeLabel grantType ∈ ["missing", "unsupported", Client.Grant.password.name] := by
  cases grantType with
  | none => exact List.mem_cons_self
  | some raw =>
    unfold Grant.typeLabel
    cases hof : Client.Grant.of? raw with
    | none => simp [hof]
    | some grant => cases grant; simp [hof]

theorem decisionLabel_mem (decision : Grant.Decision) :
    decisionLabel decision ∈ "issued" :: Grant.Code.all.map Grant.Code.text := by
  cases decision with
  | issued tokens => exact List.mem_cons_self
  | refused refusal =>
    refine List.mem_cons_of_mem _ (List.mem_map_of_mem ?_)
    cases refusal.code <;> decide

theorem decisionLabels_mem (form : Form) (decision : Grant.Decision) :
    decisionLabels form decision ∈ outcomeLabels :=
  List.mem_map_of_mem (List.mem_product.mpr ⟨typeLabel_mem _, decisionLabel_mem decision⟩)

/-- The outcomes are counted under labels from the list, each of them once. -/
structure OutcomesBounded (registry : Metrics.Registry) : Prop where
  distinct : (registry.outcomes.map (·.1)).Nodup
  listed : registry.outcomes.map (·.1) ⊆ outcomeLabels

theorem OutcomesBounded.served (app : Application) (s : Serving)
    (h : OutcomesBounded s.state.registry) : OutcomesBounded (s.served app).state.registry := by
  cases s.counts app with
  | @decided form _ decision _ _ _ _ _ _ counted =>
    refine ⟨?_, ?_⟩
    · rw [counted]
      exact Assoc.nodup_put _ _ h.distinct
    · rw [counted]
      intro labels hmem
      rcases Assoc.mem_keys_put.mp hmem with rfl | hmem
      · exact decisionLabels_mem form decision
      · exact h.listed hmem
  | undecided _ _ uncounted => exact ⟨uncounted ▸ h.distinct, uncounted ▸ h.listed⟩

theorem OutcomesBounded.run (app : Application) (stores : Stores) (steps : List Step) :
    OutcomesBounded (app.run ⟨.empty, stores⟩ steps).registry :=
  app.registry_run_of_served (fun s h => h.served app s) ⟨.empty, stores⟩ steps
    ⟨List.nodup_nil, List.nil_subset _⟩

theorem OutcomesBounded.length_le {registry : Metrics.Registry} (h : OutcomesBounded registry) :
    registry.outcomes.length ≤ outcomeLabels.length := by
  calc
    registry.outcomes.length = (registry.outcomes.map (·.1)).length := (List.length_map _).symm
    _ ≤ outcomeLabels.length := (List.subperm_of_subset h.distinct h.listed).length_le

/-! ## Labels of the caller's choice -/

/-- A request is served. -/
def visit (request : Request) : Step := .serve request Demo.fresh (.signedZero false)

theorem requests_servings (app : Application) (start : State Data) (requests : List Request) :
    (app.servings start (requests.map visit)).map (·.request) = requests := by
  induction requests generalizing start with
  | nil => rfl
  | cons request rest ih => exact congrArg (request :: ·) (ih _)

/-- Requests that differ in their method or their path are counted under as many label sets. -/
theorem length_labelSets_of_distinct (app : Application) (stores : Stores)
    {requests : List Request} (readable : ∀ r ∈ requests, r.addressFault? = none)
    (distinct : (requests.map fun r => (r.method, pathLabel r)).Nodup) :
    (app.run ⟨.empty, stores⟩ (requests.map visit)).registry.labelSets.length =
      requests.length := by
  have hrequests := requests_servings app ⟨.empty, stores⟩ requests
  have hperm := app.labelSets_run_perm stores (requests.map visit)
  generalize app.servings ⟨.empty, stores⟩ (requests.map visit) = servings at hrequests hperm
  have hlabels : (servings.filterMap (Serving.traffic? app)).map
      (fun labels => (labels.method, labels.path)) =
        requests.map fun r => (r.method, pathLabel r) := by
    rw [← hrequests, List.map_map, List.map_filterMap, ← List.filterMap_eq_map]
    refine List.filterMap_congr fun s hs => ?_
    have hreadable : s.request.addressFault? = none :=
      readable _ (hrequests ▸ List.mem_map_of_mem hs)
    rw [Serving.traffic?_of_readable app hreadable]
    rfl
  -- What differs in the method or the path differs whatever the statuses are.
  have hnodup : (servings.filterMap (Serving.traffic? app)).Nodup :=
    List.Nodup.of_map _ (hlabels ▸ distinct)
  rw [hperm.length_eq, hnodup.dedup, ← List.length_map, hlabels, List.length_map]

theorem shownPath_eq {request : Request} (slash : request.path.toList.head? = some '/')
    (plain : ∀ c ∈ request.path.toList, c ∉ ['?', '#', '\\', '\t', '\n', '\r']) :
    request.shownPath = request.path := by
  have hescaped : (request.path.toList.flatMap fun c =>
      if c = '?' then "%3F".toList
      else if c = '#' then "%23".toList
      else if c = '\\' then "%5C".toList
      else [c]) = request.path.toList := by
    rw [← List.flatMap_singleton' request.path.toList, List.flatMap_assoc]
    refine List.flatMap_congr fun c hc => ?_
    have hother := plain c hc
    simp only [List.mem_cons, List.not_mem_nil, or_false, not_or] at hother
    simp [hother]
  have hkept : request.path.toList.filter (fun c => c ≠ '\t' ∧ c ≠ '\n' ∧ c ≠ '\r') =
      request.path.toList := by
    rw [List.filter_eq_self]
    intro c hc
    have hother := plain c hc
    simp only [List.mem_cons, List.not_mem_nil, or_false, not_or] at hother
    simp [hother]
  unfold Request.shownPath Request.addressPath
  simp only [hescaped]
  rw [if_pos (by rw [slash]; simp), hkept, String.ofList_toList]

theorem exists_labels (app : Application) (stores : Stores) {requests : List Request}
    {request : Request} (h : request ∈ requests) (readable : request.addressFault? = none) :
    ∃ labels ∈ (app.run ⟨.empty, stores⟩ (requests.map visit)).registry.labelSets,
      labels.method = request.method ∧ labels.path = pathLabel request := by
  rw [← requests_servings app ⟨.empty, stores⟩ requests] at h
  obtain ⟨s, hs, rfl⟩ := List.mem_map.mp h
  have htraffic := Serving.traffic?_of_readable app readable
  exact ⟨_, (app.mem_labelSets_run_empty _ _ _).mpr ⟨s, hs, htraffic⟩, rfl, rfl⟩

/-- Requests of which no two are alike in method and path have no bound on their label sets. -/
theorem exists_more_labelSets (app : Application) (stores : Stores) {request : Nat → Request}
    (readable : ∀ n, (request n).addressFault? = none)
    (distinct : Function.Injective fun n => ((request n).method, pathLabel (request n)))
    (bound : Nat) :
    bound < (app.run ⟨.empty, stores⟩
      (((List.range (bound + 1)).map request).map visit)).registry.labelSets.length := by
  rw [length_labelSets_of_distinct app stores]
  · simp
  · intro r hr
    obtain ⟨n, -, rfl⟩ := List.mem_map.mp hr
    exact readable n
  · rw [List.map_map]
    exact List.nodup_range.map distinct

/-- A request for a path of a slash and some letters. -/
def strayRequest (n : Nat) : Request :=
  { Demo.liveRequest "" with path := String.ofList ('/' :: List.replicate n 'a') }

theorem mem_path_strayRequest {n : Nat} {c : Char} (h : c ∈ (strayRequest n).path.toList) :
    c = '/' ∨ c = 'a' := by
  rw [strayRequest, String.toList_ofList, List.mem_cons] at h
  exact h.imp id List.eq_of_mem_replicate

theorem not_routed_strayRequest (n : Nat) : ¬ Routed (strayRequest n) := by
  rintro ⟨template, hmem, fits⟩
  -- Each path of a route has a letter that is not in the path of the request.
  have hletter : ∀ template ∈ templates, template.toList.any fun c => c ≠ '/' ∧ c ≠ 'a' := by
    decide
  obtain ⟨c, hc, hother⟩ := List.any_eq_true.mp (hletter template hmem)
  obtain ⟨hslash, ha⟩ := of_decide_eq_true hother
  have hpath : c ∈ (strayRequest n).path.toList := by
    rcases fits with h | h
    · rw [h]
      exact hc
    · rw [h, String.toList_append]
      exact List.mem_append_left _ hc
  exact (mem_path_strayRequest hpath).elim hslash ha

theorem pathLabel_strayRequest (n : Nat) :
    pathLabel (strayRequest n) = String.ofList ('/' :: List.replicate n 'a') := by
  have hslash : (strayRequest n).path.toList.head? = some '/' := by
    rw [strayRequest, String.toList_ofList]
    rfl
  rw [pathLabel_of_not_routed (not_routed_strayRequest n), shownPath_eq hslash fun c hc => ?_]
  · rfl
  · rcases mem_path_strayRequest hc with rfl | rfl <;> decide

theorem injective_strayRequest :
    Function.Injective fun n => ((strayRequest n).method, pathLabel (strayRequest n)) := by
  intro n m h
  have hpath : pathLabel (strayRequest n) = pathLabel (strayRequest m) := congrArg Prod.snd h
  rw [pathLabel_strayRequest, pathLabel_strayRequest, String.ofList_inj] at hpath
  simpa using congrArg List.length hpath

/-- A request whether the service is alive, by a method of one letter several times. -/
def shoutedRequest (n : Nat) : Request :=
  { Demo.liveRequest "" with method := String.ofList ('A' :: List.replicate n 'A') }

theorem injective_shoutedRequest :
    Function.Injective fun n => ((shoutedRequest n).method, pathLabel (shoutedRequest n)) := by
  intro n m h
  have hmethod : (shoutedRequest n).method = (shoutedRequest m).method := congrArg Prod.fst h
  rw [shoutedRequest, shoutedRequest, String.ofList_inj] at hmethod
  simpa using congrArg List.length hmethod

theorem routed_shoutedRequest (n : Nat) : Routed (shoutedRequest n) :=
  ⟨"/health/live", by decide, .inl rfl⟩

/-- In every run from empty counts there is one label set for each under which a request was
answered, and one duration for each of these. A request is labelled with its method, with the path
of its route or else its own path, and with a status from a fixed list; so the label sets are
bounded by the methods and the paths without a route that were asked for. Those of token requests
are bounded once and for all. -/
theorem label_sets_follow_requests (app : Application) (stores : Stores) (steps : List Step) :
    (app.run ⟨.empty, stores⟩ steps).registry.labelSets.Perm
        ((app.servings ⟨.empty, stores⟩ steps).filterMap (Serving.traffic? app)).dedup ∧
      (app.run ⟨.empty, stores⟩ steps).registry.durations.map (·.1) =
        (app.run ⟨.empty, stores⟩ steps).registry.labelSets ∧
      (app.run ⟨.empty, stores⟩ steps).registry.outcomes.length ≤ 21 ∧
      (∀ s ∈ app.servings ⟨.empty, stores⟩ steps, ∀ labels, s.traffic? app = some labels →
        LabelledAs s.request labels) ∧
      ∀ methods others : List String,
        (∀ s ∈ app.servings ⟨.empty, stores⟩ steps, s.request.method ∈ methods ∧
          (Routed s.request ∨ s.request.shownPath ∈ others)) →
        (app.run ⟨.empty, stores⟩ steps).registry.labelSets.length ≤
          methods.length * ((5 + others.length) * 10) := by
  refine ⟨app.labelSets_run_perm stores steps, (app.orderly_run stores steps).timed,
    (OutcomesBounded.run app stores steps).length_le,
    fun s _ labels h => Serving.labelledAs_of_traffic? h,
    fun methods others h => ?_⟩
  have hpaths : ∀ s ∈ app.servings ⟨.empty, stores⟩ steps,
      s.request.method ∈ methods ∧ pathLabel s.request ∈ templates ++ others := by
    intro s hs
    obtain ⟨hmethod, hpath⟩ := h s hs
    refine ⟨hmethod, List.mem_append.mpr ?_⟩
    -- A path with a route is counted under its template, any other under itself.
    by_cases hrouted : Routed s.request
    · obtain ⟨template, hmem, fits⟩ := hrouted
      exact .inl (pathLabel_of_isAt hmem fits ▸ hmem)
    · exact .inr (pathLabel_of_not_routed hrouted ▸ hpath.resolve_left hrouted)
  have hlength := app.length_labelSets_le stores steps hpaths
  rw [List.length_append] at hlength
  exact hlength

/-- Requests by one method for paths with a route have few label sets. -/
theorem label_sets_follow_requests_demo :
    (Application.standard.run ⟨.empty, .empty⟩
      ([Demo.liveRequest "", Demo.liveRequest "a=b", Demo.countsRequest].map
        visit)).registry.labelSets.length ≤ 50 := by
  obtain ⟨-, -, -, -, hbound⟩ := label_sets_follow_requests .standard .empty
    ([Demo.liveRequest "", Demo.liveRequest "a=b", Demo.countsRequest].map visit)
  refine hbound ["GET"] [] fun s hs => ?_
  have hrequest :
      s.request ∈ [Demo.liveRequest "", Demo.liveRequest "a=b", Demo.countsRequest] := by
    rw [← requests_servings .standard ⟨.empty, .empty⟩ [_, _, _]]
    exact List.mem_map_of_mem hs
  simp only [List.mem_cons, List.not_mem_nil, or_false] at hrequest
  rcases hrequest with h | h | h <;> rw [h]
  · exact ⟨by decide, .inl ⟨"/health/live", by decide, .inl rfl⟩⟩
  · exact ⟨by decide, .inl ⟨"/health/live", by decide, .inl rfl⟩⟩
  · exact ⟨by decide, .inl ⟨"/metrics", by decide, .inl rfl⟩⟩

/-- Two paths without a route have no label in common, and neither the paths nor the methods are
bounded that there are label sets for. -/
theorem label_sets_are_unbounded :
    (¬ ∃ other, ∀ labels ∈ (Application.standard.run ⟨.empty, .empty⟩
        ([strayRequest 1, strayRequest 2].map visit)).registry.labelSets,
      labels.path ∈ templates ∨ labels.path = other) ∧
    (¬ ∃ bound, ∀ steps, (Application.standard.run ⟨.empty, .empty⟩
      steps).registry.labelSets.length ≤ bound) ∧
    ¬ ∃ bound, ∀ requests : List Request, (∀ r ∈ requests, Routed r) →
      (Application.standard.run ⟨.empty, .empty⟩
        (requests.map visit)).registry.labelSets.length ≤ bound := by
  refine ⟨?_, ?_, ?_⟩
  -- Neither of the two paths is a template, so that both would be the one other label.
  · rintro ⟨other, h⟩
    obtain ⟨one, hone, -, hpath⟩ := exists_labels .standard .empty
      (List.mem_cons_self : strayRequest 1 ∈ [strayRequest 1, strayRequest 2]) rfl
    obtain ⟨two, htwo, -, hpath'⟩ := exists_labels .standard .empty
      (List.mem_cons_of_mem _ (List.mem_singleton_self (strayRequest 2))) rfl
    rw [pathLabel_strayRequest] at hpath hpath'
    have hone' := (h one hone).resolve_left (by rw [hpath]; decide)
    have htwo' := (h two htwo).resolve_left (by rw [hpath']; decide)
    rw [← htwo', hpath, hpath'] at hone'
    exact absurd hone' (by decide)
  · rintro ⟨bound, h⟩
    have hmore := exists_more_labelSets .standard .empty (fun _ => rfl) injective_strayRequest bound
    exact absurd (h _) (Nat.not_le_of_lt hmore)
  · rintro ⟨bound, h⟩
    have hmore := exists_more_labelSets .standard .empty (fun _ => rfl) injective_shoutedRequest
      bound
    refine absurd (h _ fun r hr => ?_) (Nat.not_le_of_lt hmore)
    obtain ⟨n, -, rfl⟩ := List.mem_map.mp hr
    exact routed_shoutedRequest n

end TokenIssuer.Service
