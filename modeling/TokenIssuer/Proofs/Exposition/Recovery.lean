import Mathlib.Data.List.Nodup
import Mathlib.Data.List.Perm.Basic
import TokenIssuer.Proofs.Exposition
import TokenIssuer.Proofs.Exposition.Reader

/-!
What a reader of the text gets back: the samples that were written, and from them each count under
its labels, once and in order.
-/

namespace TokenIssuer.Metrics

open Text

variable {α β : Type}

/-! ## The samples of a text -/

/-- The lines of a text that are neither empty nor a comment. -/
def dataLines (text : String) : List (List Char) :=
  (splitOn '\n' text.toList).filter fun line => line.head?.any (· != '#')

def readText (text : String) : Option (List Sample) := (dataLines text).mapM Sample.read

def Traffic.pairs (t : Traffic) : List (String × String) :=
  [("method", t.method), ("path", t.path), ("status", t.status)]

def Outcome.pairs (o : Outcome) : List (String × String) :=
  [("grant_type", o.grantType), ("outcome", o.outcome)]

theorem Traffic.pairs_injective : Function.Injective Traffic.pairs := by
  rintro ⟨m, p, s⟩ ⟨m', p', s'⟩ h
  cases h
  rfl

theorem Outcome.pairs_injective : Function.Injective Outcome.pairs := by
  rintro ⟨g, o⟩ ⟨g', o'⟩ h
  cases h
  rfl

/-- The name of the number of requests that were timed. -/
def countName : String := durationName ++ "_count"

def requestSample (e : Traffic × Nat) : Sample := ⟨requestsName, e.1.pairs, toString e.2⟩

def durationSample (e : Traffic × Stat) : Sample := ⟨countName, e.1.pairs, toString e.2.count⟩

def secondsSample (e : Traffic × Stat) : Sample :=
  ⟨durationName ++ "_sum", e.1.pairs, Number.shortest e.2.seconds⟩

def outcomeSample (e : Outcome × Nat) : Sample := ⟨outcomesName, e.1.pairs, toString e.2⟩

/-- The samples of a registry in the order in which they are written. -/
def Registry.content (r : Registry) : List Sample :=
  r.sortedRequests.map requestSample ++
    r.sortedDurations.flatMap (fun e => [durationSample e, secondsSample e]) ++
    r.sortedOutcomes.map outcomeSample

theorem isName_names : Sample.IsName requestsName ∧ Sample.IsName countName ∧
    Sample.IsName (durationName ++ "_sum") ∧ Sample.IsName outcomesName := by decide

theorem isName_labels : Sample.IsName "method" ∧ Sample.IsName "path" ∧ Sample.IsName "status" ∧
    Sample.IsName "grant_type" ∧ Sample.IsName "outcome" := by decide

theorem named_content (r : Registry) : ∀ s ∈ r.content, s.Named := by
  obtain ⟨hrequests, hcount, hseconds, houtcomes⟩ := isName_names
  obtain ⟨hmethod, hpath, hstatus, hgrant, houtcome⟩ := isName_labels
  have htraffic (t : Traffic) : ∀ l ∈ t.pairs, Sample.IsName l.1 :=
    List.forall_mem_cons.mpr ⟨hmethod, List.forall_mem_cons.mpr ⟨hpath,
      List.forall_mem_singleton.mpr hstatus⟩⟩
  have hpairs (o : Outcome) : ∀ l ∈ o.pairs, Sample.IsName l.1 :=
    List.forall_mem_cons.mpr ⟨hgrant, List.forall_mem_singleton.mpr houtcome⟩
  intro s hs
  unfold Registry.content at hs
  simp only [List.mem_append, List.mem_map, List.mem_flatMap] at hs
  rcases hs with (⟨e, -, rfl⟩ | ⟨e, -, hs⟩) | ⟨e, -, rfl⟩
  · exact ⟨hrequests, htraffic e.1⟩
  · rcases List.mem_cons.mp hs with rfl | hs
    · exact ⟨hcount, htraffic e.1⟩
    · rw [List.mem_singleton.mp hs]
      exact ⟨hseconds, htraffic e.1⟩
  · exact ⟨houtcomes, hpairs e.1⟩

theorem Sample.line_is_data {s : Sample} (h : s.Named) : s.line.toList.head?.any (· != '#') := by
  obtain ⟨⟨hchars, hfirst⟩, -⟩ := h
  unfold line series
  simp only [String.toList_append, List.append_assoc]
  cases hname : s.name.toList with
  | nil => rw [hname] at hfirst; cases hfirst
  | cons c cs =>
    rw [hname, List.all_cons, Bool.and_eq_true] at hchars
    -- A hash does not stand in names.
    have hhash : c ≠ '#' := by
      rintro rfl
      exact absurd hchars.1 (by decide)
    simpa using hhash

theorem preamble_is_comment (name help type : String) :
    ((preamble name help type).map String.toList).filter (fun l => l.head?.any (· != '#')) =
      [] := by
  have hhelp : "# HELP ".toList = '#' :: " HELP ".toList := by decide
  have htype : "# TYPE ".toList = '#' :: " TYPE ".toList := by decide
  unfold preamble
  simp only [List.map_cons, List.map_nil, String.toList_append, hhelp, htype, List.cons_append]
  rfl

theorem filter_data {samples : List Sample} (h : ∀ s ∈ samples, s.Named) :
    ((samples.map Sample.line).map String.toList).filter (fun l => l.head?.any (· != '#')) =
      samples.map fun s => s.line.toList := by
  rw [List.map_map, List.filter_eq_self.mpr]
  · rfl
  · intro line hline
    obtain ⟨s, hs, rfl⟩ := List.mem_map.mp hline
    exact Sample.line_is_data (h s hs)

/-- The lines are those of the samples, and two lines of comment above each metric. -/
theorem lines_eq (r : Registry) :
    r.lines = preamble requestsName "Total HTTP requests seen by the service." "counter" ++
      (r.sortedRequests.map requestSample).map Sample.line ++
      preamble durationName "End-to-end HTTP request duration in seconds." "summary" ++
      (r.sortedDurations.flatMap fun e => [durationSample e, secondsSample e]).map Sample.line ++
      preamble outcomesName "Token endpoint requests by grant type and outcome." "counter" ++
      (r.sortedOutcomes.map outcomeSample).map Sample.line := by
  have hcount (e : Traffic × Stat) : (durationSample e).line =
      series (durationName ++ "_count") e.1.labels ++ s!" {e.2.count}" := String.append_assoc
  have hdurations : (r.sortedDurations.flatMap fun e =>
      [durationSample e, secondsSample e]).map Sample.line =
        r.sortedDurations.flatMap (fun e =>
          [series (durationName ++ "_count") e.1.labels ++ s!" {e.2.count}",
           series (durationName ++ "_sum") e.1.labels ++ " " ++ Number.shortest e.2.seconds]) := by
    rw [List.map_flatMap]
    apply List.flatMap_congr
    intro e _
    rw [List.map_cons, hcount]
    rfl
  rw [hdurations, List.map_map, List.map_map]
  rfl

theorem dataLines_text (r : Registry) :
    dataLines r.text = r.content.map fun s => s.line.toList := by
  have hnamed := named_content r
  unfold Registry.content at hnamed
  simp only [List.forall_mem_append] at hnamed
  obtain ⟨⟨hrequests, hdurations⟩, houtcomes⟩ := hnamed
  unfold dataLines Registry.content
  rw [splitOn_text, lines_eq]
  simp only [List.map_append, List.filter_append, preamble_is_comment]
  rw [filter_data hrequests, filter_data hdurations, filter_data houtcomes]
  simp

/-- What is found in every member of a list is found in the whole list. -/
theorem mapM_of_forall {f : α → Option β} {g : α → β} {xs : List α}
    (h : ∀ x ∈ xs, f x = some (g x)) : xs.mapM f = some (xs.map g) := by
  induction xs with
  | nil => rfl
  | cons x xs ih =>
    rw [List.mapM_cons, h x List.mem_cons_self, ih fun y hy => h y (List.mem_cons_of_mem x hy)]
    rfl

theorem mapM_read {samples : List Sample} (h : ∀ s ∈ samples, s.Named) :
    (samples.map fun s => s.line.toList).mapM Sample.read = some samples := by
  rw [List.mapM_map]
  exact (mapM_of_forall fun s hs => Sample.read_line (h s hs)).trans (congrArg some (List.map_id _))

/-- The text is read as the samples it was written for. -/
theorem readText_text (r : Registry) : readText r.text = some r.content := by
  unfold readText
  rw [dataLines_text]
  exact mapM_read (named_content r)

/-! ## The counts of a text -/

/-- A number and the labels it stands under. -/
abbrev Counted : Type := List (String × String) × Nat

/-- The numbers of a metric in samples. -/
def countsOf (name : String) (samples : List Sample) : Option (List Counted) :=
  (samples.filter (·.name = name)).mapM fun s =>
    (Sample.readCount s.value).map fun n => (s.labels, n)

def readCounts (name text : String) : Option (List Counted) :=
  (readText text).bind (countsOf name)

def trafficCounted (e : Traffic × Nat) : Counted := (e.1.pairs, e.2)

def outcomeCounted (e : Outcome × Nat) : Counted := (e.1.pairs, e.2)

/-- The samples of one metric are told by its name. -/
theorem filter_name {make : α → Sample} {tag : String} (h : ∀ x, (make x).name = tag)
    (name : String) (xs : List α) :
    (xs.map make).filter (·.name = name) = if tag = name then xs.map make else [] := by
  split
  · next htag =>
    apply List.filter_eq_self.mpr
    intro s hs
    obtain ⟨x, -, rfl⟩ := List.mem_map.mp hs
    exact decide_eq_true ((h x).trans htag)
  · next htag =>
    apply List.filter_eq_nil_iff.mpr
    intro s hs
    obtain ⟨x, -, rfl⟩ := List.mem_map.mp hs
    exact fun hname => htag ((h x).symm.trans (of_decide_eq_true hname))

theorem filter_name_durations (name : String) (hseconds : durationName ++ "_sum" ≠ name)
    (xs : List (Traffic × Stat)) :
    (xs.flatMap fun e => [durationSample e, secondsSample e]).filter (·.name = name) =
      if countName = name then xs.map durationSample else [] := by
  have hdropped (e : Traffic × Stat) : [secondsSample e].filter (·.name = name) = [] :=
    List.filter_cons_of_neg fun h => hseconds (of_decide_eq_true h)
  by_cases hname : countName = name
  · rw [if_pos hname]
    induction xs with
    | nil => rfl
    | cons e es ih =>
      have hkept : decide ((durationSample e).name = name) = true := decide_eq_true hname
      rw [List.flatMap_cons, List.filter_append, ih, List.filter_cons, if_pos hkept, hdropped e]
      rfl
  · rw [if_neg hname]
    apply List.filter_eq_nil_iff.mpr
    intro s hs
    obtain ⟨e, -, hs⟩ := List.mem_flatMap.mp hs
    rcases List.mem_cons.mp hs with rfl | hs
    · exact fun h => hname (of_decide_eq_true h)
    · rw [List.mem_singleton.mp hs]
      exact fun h => hseconds (of_decide_eq_true h)

theorem filter_content (r : Registry) {name : String} (hseconds : durationName ++ "_sum" ≠ name) :
    r.content.filter (·.name = name) =
      (if requestsName = name then r.sortedRequests.map requestSample else []) ++
        (if countName = name then r.sortedDurations.map durationSample else []) ++
        (if outcomesName = name then r.sortedOutcomes.map outcomeSample else []) := by
  have hrequests : ∀ e, (requestSample e).name = requestsName := fun _ => rfl
  have houtcomes : ∀ e, (outcomeSample e).name = outcomesName := fun _ => rfl
  unfold Registry.content
  rw [List.filter_append, List.filter_append, filter_name hrequests name,
    filter_name_durations name hseconds, filter_name houtcomes name]

theorem countsOf_map {name : String} {counted : α → Counted} {samples : List Sample} {xs : List α}
    (h : samples.filter (·.name = name) =
      xs.map fun x => ⟨name, (counted x).1, toString (counted x).2⟩) :
    countsOf name samples = some (xs.map counted) := by
  unfold countsOf
  rw [h, List.mapM_map]
  apply mapM_of_forall
  intro x _
  rw [Function.comp_apply, Sample.readCount_toString]
  rfl

theorem countsOf_requests (r : Registry) :
    countsOf requestsName r.content = some (r.sortedRequests.map trafficCounted) := by
  apply countsOf_map
  rw [filter_content r (by decide), if_pos rfl, if_neg (by decide), if_neg (by decide),
    List.append_nil, List.append_nil]
  rfl

theorem countsOf_durations (r : Registry) :
    countsOf countName r.content =
      some ((r.sortedDurations.map fun e => (e.1, e.2.count)).map trafficCounted) := by
  apply countsOf_map
  rw [filter_content r (by decide), if_neg (by decide), if_pos rfl, if_neg (by decide),
    List.nil_append, List.append_nil, List.map_map]
  rfl

theorem countsOf_outcomes (r : Registry) :
    countsOf outcomesName r.content = some (r.sortedOutcomes.map outcomeCounted) := by
  apply countsOf_map
  rw [filter_content r (by decide), if_neg (by decide), if_neg (by decide), if_pos rfl,
    List.nil_append, List.nil_append]
  rfl

theorem readCounts_text (name : String) (r : Registry) :
    readCounts name r.text = countsOf name r.content := by
  unfold readCounts
  rw [readText_text, Option.bind_some]

/-! ## The counts of what happened -/

/-- What is counted. -/
inductive Event where
  | request (labels : Traffic) (seconds : Double)
  | outcome (labels : Outcome)

namespace Registry

def count (r : Registry) : Event → Registry
  | .request labels seconds => r.record labels seconds
  | .outcome labels => r.recordOutcome labels

/-- The registry in which some events were counted. -/
def after (events : List Event) : Registry := events.foldl count empty

/-- How many requests were timed. -/
def timed (r : Registry) : List (Traffic × Nat) := r.durations.map fun e => (e.1, e.2.count)

/-- No labels are counted in two entries. -/
structure Distinct (r : Registry) : Prop where
  requests : (r.requests.map (·.1)).Nodup
  durations : (r.durations.map (·.1)).Nodup
  outcomes : (r.outcomes.map (·.1)).Nodup

theorem Distinct.count {r : Registry} (h : r.Distinct) (e : Event) : (r.count e).Distinct := by
  cases e with
  | request labels seconds =>
    exact ⟨Assoc.nodup_put _ _ h.requests, Assoc.nodup_put _ _ h.durations, h.outcomes⟩
  | outcome labels => exact ⟨h.requests, h.durations, Assoc.nodup_put _ _ h.outcomes⟩

theorem distinct_after (events : List Event) : (after events).Distinct := by
  have hrun (r : Registry) (h : r.Distinct) : (events.foldl Registry.count r).Distinct := by
    induction events generalizing r with
    | nil => exact h
    | cons e es ih => exact ih _ (h.count e)
  exact hrun empty ⟨.nil, .nil, .nil⟩

end Registry

/-- Counts in the order of the values of their labels. -/
def InOrder (found : List Counted) : Prop :=
  found.Pairwise fun a b => a.1.map (·.2) < b.1.map (·.2)

/-- The text tells each of the counts once, in order, and no other one under the name. -/
def Tells (text name : String) (entries : List Counted) : Prop :=
  ∃ found, readCounts name text = some found ∧ InOrder found ∧ found.Perm entries

theorem inOrder_sortByKey {key : α → List String} {counted : α → Counted}
    (hkey : ∀ x, (counted x).1.map (·.2) = key x) {xs : List α} (h : (xs.map key).Nodup) :
    InOrder ((sortByKey key xs).map counted) := by
  unfold InOrder
  rw [List.pairwise_map]
  apply (sortByKey_pairwise key h).imp
  intro x y hless
  rw [hkey, hkey]
  exact hless

theorem tells_of_countsOf {name : String} {r : Registry} {key : α → List String}
    {counted : α → Counted} {entries : List α}
    (hfound : countsOf name r.content = some ((sortByKey key entries).map counted))
    (hkey : ∀ x, (counted x).1.map (·.2) = key x) (h : (entries.map key).Nodup) :
    Tells r.text name (entries.map counted) :=
  ⟨_, (readCounts_text name r).trans hfound, inOrder_sortByKey hkey h,
    (sortByKey_perm key entries).map counted⟩

theorem nodup_trafficKey {entries : List (Traffic × α)} (h : (entries.map (·.1)).Nodup) :
    (entries.map trafficKey).Nodup := by
  have hkey : entries.map trafficKey =
      (entries.map (·.1)).map fun t => [t.method, t.path, t.status] := by
    rw [List.map_map]
    rfl
  rw [hkey]
  apply List.Nodup.map ?_ h
  rintro ⟨m, p, s⟩ ⟨m', p', s'⟩ heq
  cases heq
  rfl

theorem nodup_outcomeKey {entries : List (Outcome × α)} (h : (entries.map (·.1)).Nodup) :
    (entries.map fun e => [e.1.grantType, e.1.outcome]).Nodup := by
  have hkey : (entries.map fun e => [e.1.grantType, e.1.outcome]) =
      (entries.map (·.1)).map fun o => [o.grantType, o.outcome] := by
    rw [List.map_map]
    rfl
  rw [hkey]
  apply List.Nodup.map ?_ h
  rintro ⟨g, o⟩ ⟨g', o'⟩ heq
  cases heq
  rfl

/-! ## The lines of the counters -/

def counterNames : List String := [requestsName, countName, outcomesName]

/-- The lines of a text that are read as a sample of a counter. -/
def counterLines (text : String) : List (List Char) :=
  (dataLines text).filter fun line => (Sample.read line).any (·.name ∈ counterNames)

theorem counterLines_text (r : Registry) :
    counterLines r.text =
      (r.content.filter (·.name ∈ counterNames)).map fun s => s.line.toList := by
  unfold counterLines
  rw [dataLines_text, List.filter_map]
  congr 1
  apply List.filter_congr
  intro s hs
  rw [Function.comp_apply, Sample.read_line (named_content r s hs), Option.any_some]

theorem countsOf_counters {name : String} (h : name ∈ counterNames) (samples : List Sample) :
    countsOf name (samples.filter (·.name ∈ counterNames)) = countsOf name samples := by
  unfold countsOf
  rw [List.filter_filter]
  congr 1
  apply List.filter_congr
  intro s _
  by_cases hname : s.name = name
  · simp [hname, h]
  · simp [hname]

/-- Registries whose counters have the same lines are read as the same counts. -/
theorem countsOf_eq_of_counterLines {r r' : Registry}
    (h : counterLines r.text = counterLines r'.text) {name : String} (hname : name ∈ counterNames) :
    countsOf name r.content = countsOf name r'.content := by
  have hnamed (r : Registry) : ∀ s ∈ r.content.filter (·.name ∈ counterNames), s.Named :=
    fun s hs => named_content r s (List.mem_filter.mp hs).1
  rw [counterLines_text, counterLines_text] at h
  have hread := mapM_read (hnamed r)
  rw [h, mapM_read (hnamed r')] at hread
  rw [← countsOf_counters hname r.content, ← Option.some.inj hread, countsOf_counters hname]

theorem sortedRequests_perm (r : Registry) :
    (r.sortedRequests.map trafficCounted).Perm (r.requests.map trafficCounted) :=
  (sortByKey_perm trafficKey r.requests).map trafficCounted

theorem sortedDurations_perm (r : Registry) :
    ((r.sortedDurations.map fun e => (e.1, e.2.count)).map trafficCounted).Perm
      (r.timed.map trafficCounted) :=
  ((sortByKey_perm trafficKey r.durations).map _).map trafficCounted

theorem sortedOutcomes_perm (r : Registry) :
    (r.sortedOutcomes.map outcomeCounted).Perm (r.outcomes.map outcomeCounted) :=
  (sortByKey_perm _ r.outcomes).map outcomeCounted

theorem trafficCounted_injective : Function.Injective trafficCounted :=
  fun _ _ h => Prod.ext (Traffic.pairs_injective (Prod.mk.inj h).1) (Prod.mk.inj h).2

theorem outcomeCounted_injective : Function.Injective outcomeCounted :=
  fun _ _ h => Prod.ext (Outcome.pairs_injective (Prod.mk.inj h).1) (Prod.mk.inj h).2

/-- The counters of two registries are the same. -/
structure SameCounters (r r' : Registry) : Prop where
  requests : r.requests.Perm r'.requests
  timed : r.timed.Perm r'.timed
  outcomes : r.outcomes.Perm r'.outcomes

theorem perm_of_counterLines {r r' : Registry} (h : counterLines r.text = counterLines r'.text)
    {name : String} (hname : name ∈ counterNames) {counted : α → Counted}
    (hinj : Function.Injective counted) {found found' : List Counted} {entries entries' : List α}
    (hfound : countsOf name r.content = some found)
    (hfound' : countsOf name r'.content = some found')
    (hperm : found.Perm (entries.map counted)) (hperm' : found'.Perm (entries'.map counted)) :
    entries.Perm entries' := by
  -- Both registries are read as one list, which is in the order of neither.
  rw [countsOf_eq_of_counterLines h hname, hfound'] at hfound
  obtain rfl := Option.some.inj hfound
  exact (List.map_perm_map_iff hinj).mp (hperm.symm.trans hperm')

theorem sameCounters_of_counterLines {r r' : Registry}
    (h : counterLines r.text = counterLines r'.text) : SameCounters r r' where
  requests := perm_of_counterLines h (by decide) trafficCounted_injective (countsOf_requests r)
    (countsOf_requests r') (sortedRequests_perm r) (sortedRequests_perm r')
  timed := perm_of_counterLines h (by decide) trafficCounted_injective (countsOf_durations r)
    (countsOf_durations r') (sortedDurations_perm r) (sortedDurations_perm r')
  outcomes := perm_of_counterLines h (by decide) outcomeCounted_injective (countsOf_outcomes r)
    (countsOf_outcomes r') (sortedOutcomes_perm r) (sortedOutcomes_perm r')

/-- The text of the counts is read back as the counts, and different counts have different lines,
whatever is in the labels. -/
theorem text_recovers (events : List Event) :
    Tells (Registry.after events).text requestsName
      ((Registry.after events).requests.map trafficCounted) ∧
    Tells (Registry.after events).text countName
      ((Registry.after events).timed.map trafficCounted) ∧
    Tells (Registry.after events).text outcomesName
      ((Registry.after events).outcomes.map outcomeCounted) ∧
    ∀ others : List Event,
      counterLines (Registry.after events).text = counterLines (Registry.after others).text →
        SameCounters (Registry.after events) (Registry.after others) := by
  have hdistinct := Registry.distinct_after events
  -- The durations are sorted as they are kept, with the sum of the seconds beside each count.
  have htimed := countsOf_durations (Registry.after events)
  rw [List.map_map] at htimed
  refine ⟨?_, ?_, ?_, fun others => sameCounters_of_counterLines⟩
  · exact tells_of_countsOf (countsOf_requests _) (fun _ => rfl)
      (nodup_trafficKey hdistinct.requests)
  · unfold Registry.timed
    rw [List.map_map]
    exact tells_of_countsOf htimed (fun _ => rfl) (nodup_trafficKey hdistinct.durations)
  · exact tells_of_countsOf (countsOf_outcomes _) (fun _ => rfl)
      (nodup_outcomeKey hdistinct.outcomes)

end TokenIssuer.Metrics
