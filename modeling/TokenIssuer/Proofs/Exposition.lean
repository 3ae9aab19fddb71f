import TokenIssuer.Proofs.Metrics
import TokenIssuer.Proofs.Number
import TokenIssuer.Proofs.Text

/-! The text of the counts, read back: its lines, and the numbers of the samples in them. -/

namespace TokenIssuer.Metrics

open Text

/-! ## Lines -/

/-- The text is one line. -/
def OneLine (s : String) : Prop := '\n' ∉ s.toList

instance (s : String) : Decidable (OneLine s) := inferInstanceAs (Decidable (¬ _))

theorem OneLine.append {s t : String} (hs : OneLine s) (ht : OneLine t) : OneLine (s ++ t) := by
  unfold OneLine
  rw [String.toList_append, List.mem_append, not_or]
  exact ⟨hs, ht⟩

theorem oneLine_toString (n : Nat) : OneLine (toString n) := by
  unfold OneLine
  rw [Nat.toString_eq_repr, Nat.toList_repr]
  intro h
  have hdigit := Nat.isDigit_of_mem_toDigits (by omega) (by omega) h
  exact absurd hdigit (by decide)

/-- What is written of the value of a label is left by three replacements, one after the other. None
of them brings in what a later one replaces. -/
theorem toList_escapeLabel (value : String) :
    (escapeLabel value).toList =
      replace ['\n'] ['\\', 'n'] (replace ['"'] ['\\', '"'] (replace ['\\'] ['\\', '\\']
        value.toList)) := by
  unfold escapeLabel
  rw [String.toList_ofList, replace_singleton, replace_singleton, replace_singleton,
    List.flatMap_assoc, List.flatMap_assoc]
  congr 1
  funext c
  by_cases hslash : c = '\\'
  · rw [hslash]
    decide
  · by_cases hquote : c = '"'
    · rw [hquote]
      decide
    · simp only [labelChar, hslash, hquote, if_false, List.flatMap_singleton]

theorem oneLine_escapeLabel (value : String) : OneLine (escapeLabel value) := by
  unfold OneLine escapeLabel
  rw [String.toList_ofList, List.mem_flatMap]
  rintro ⟨c, -, hc⟩
  -- A line feed is written as two characters, and neither of them is one.
  unfold labelChar at hc
  split at hc
  · exact absurd hc (by decide)
  · split at hc
    · exact absurd hc (by decide)
    · split at hc
      · exact absurd hc (by decide)
      · next hfeed => exact hfeed (List.mem_singleton.mp hc).symm

theorem oneLine_label {name : String} (h : OneLine name) (value : String) :
    OneLine (label name value) := by
  have hopen : OneLine "=\"" := by decide
  have hclose : OneLine "\"" := by decide
  exact ((h.append hopen).append (oneLine_escapeLabel value)).append hclose

theorem oneLine_series {name : String} (h : OneLine name) {labels : List String}
    (hlabels : ∀ label ∈ labels, OneLine label) : OneLine (series name labels) := by
  have hjoined : OneLine (",".intercalate labels) := by
    unfold OneLine
    rw [String.toList_intercalate]
    intro hc
    rcases mem_intercalate hc with hc | ⟨piece, hp, hc⟩
    · exact absurd hc (by decide)
    · obtain ⟨label, hl, rfl⟩ := List.mem_map.mp hp
      exact hlabels label hl hc
  have hopen : OneLine "\x7b" := by decide
  have hclose : OneLine "\x7d" := by decide
  exact ((h.append hopen).append hjoined).append hclose

theorem oneLine_labels_traffic (t : Traffic) : ∀ label ∈ t.labels, OneLine label :=
  List.forall_mem_cons.mpr ⟨oneLine_label (by decide) _, List.forall_mem_cons.mpr
    ⟨oneLine_label (by decide) _, List.forall_mem_singleton.mpr (oneLine_label (by decide) _)⟩⟩

theorem oneLine_labels_outcome (o : Outcome) : ∀ label ∈ o.labels, OneLine label :=
  List.forall_mem_cons.mpr ⟨oneLine_label (by decide) _,
    List.forall_mem_singleton.mpr (oneLine_label (by decide) _)⟩

theorem not_mem_toDigits (n : Nat) : '\n' ∉ Nat.toDigits 10 n := by
  intro h
  exact absurd (Nat.isDigit_of_mem_toDigits (by omega) (by omega) h) (by decide)

theorem not_mem_replicate (n : Nat) : '\n' ∉ List.replicate n '0' :=
  fun h => absurd (List.eq_of_mem_replicate h) (by decide)

theorem not_mem_layOut {digits : List Char} (h : '\n' ∉ digits) (point : Int) :
    '\n' ∉ Number.layOut digits point := by
  have hzero : '\n' ∉ "0.".toList := by decide
  have hend : '\n' ∉ ".0".toList := by decide
  have hpower := not_mem_toDigits (point - 1).natAbs
  -- Digits near the point are padded with zeros; otherwise a sign and a power follow them.
  unfold Number.layOut
  split
  · split
    · simp only [List.mem_append, not_or]
      exact ⟨⟨hzero, not_mem_replicate _⟩, h⟩
    · split
      · simp only [List.mem_append, not_or]
        exact ⟨⟨h, not_mem_replicate _⟩, hend⟩
      · simp only [List.mem_append, List.mem_cons, not_or]
        exact ⟨fun hc => h (List.mem_of_mem_take hc), by decide,
          fun hc => h (List.mem_of_mem_drop hc)⟩
  · have hsign : '\n' ≠ (if point - 1 < 0 then '-' else '+') := by split <;> decide
    simp only [List.mem_append, List.mem_cons, not_or]
    refine ⟨?_, by decide, hsign, ?_⟩
    · match digits with
      | [] => exact List.not_mem_nil
      | [d] => exact h
      | d :: e :: es =>
        rw [List.mem_cons, not_or] at h
        simp only [List.mem_cons, not_or] at h ⊢
        exact ⟨h.1, by decide, h.2⟩
    · split
      · exact fun hc => (List.mem_cons.mp hc).elim (by decide) hpower
      · exact hpower

theorem oneLine_shortest (x : Double) : OneLine (Number.shortest x) := by
  unfold Number.shortest
  cases x with
  | nan => decide
  | infinite negative => cases negative <;> decide
  | finite negative m e =>
    -- What is written of a finite number is its digits, laid out, behind a sign.
    have hbody (body : List Char) (h : '\n' ∉ body) :
        OneLine (String.ofList (if negative then '-' :: body else body)) := by
      unfold OneLine
      rw [String.toList_ofList]
      split
      · exact fun hc => (List.mem_cons.mp hc).elim (by decide) h
      · exact h
    apply hbody
    split
    · decide
    · simp only
      split
      · exact List.not_mem_nil
      · apply not_mem_layOut
        unfold Number.dropZeros
        rw [List.mem_reverse]
        intro hc
        exact not_mem_toDigits _ (List.mem_reverse.mp ((List.dropWhile_sublist _).mem hc))

theorem oneLine_preamble {name help type : String} (hn : OneLine name) (hh : OneLine help)
    (ht : OneLine type) : ∀ line ∈ preamble name help type, OneLine line := by
  have hspace : OneLine " " := by decide
  have hhelp : OneLine "# HELP " := by decide
  have htype : OneLine "# TYPE " := by decide
  exact List.forall_mem_cons.mpr ⟨((hhelp.append hn).append hspace).append hh,
    List.forall_mem_singleton.mpr (((htype.append hn).append hspace).append ht)⟩

theorem oneLine_names :
    OneLine requestsName ∧ OneLine durationName ∧ OneLine outcomesName := by decide

theorem oneLine_lines (r : Registry) : ∀ line ∈ r.lines, OneLine line := by
  obtain ⟨hrequests, hduration, houtcomes⟩ := oneLine_names
  have hspace : OneLine " " := by decide
  have hcounter : OneLine "counter" := by decide
  have hcount : OneLine (durationName ++ "_count") := hduration.append (by decide)
  have hsum : OneLine (durationName ++ "_sum") := hduration.append (by decide)
  intro line hline
  unfold Registry.lines at hline
  simp only [List.mem_append, List.mem_map, List.mem_flatMap] at hline
  -- Six groups of lines: the preamble and the series of each of the three metrics.
  rcases hline with ((((h | ⟨e, -, rfl⟩) | h) | ⟨e, -, h⟩) | h) | ⟨e, -, rfl⟩
  · exact oneLine_preamble hrequests (by decide) hcounter line h
  · exact ((oneLine_series hrequests (oneLine_labels_traffic e.1)).append hspace).append
      (oneLine_toString e.2)
  · exact oneLine_preamble hduration (by decide) (by decide) line h
  · rcases List.mem_cons.mp h with rfl | h
    · exact (oneLine_series hcount (oneLine_labels_traffic e.1)).append
        (hspace.append (oneLine_toString e.2.count))
    · rw [List.mem_singleton.mp h]
      exact ((oneLine_series hsum (oneLine_labels_traffic e.1)).append hspace).append
        (oneLine_shortest e.2.seconds)
  · exact oneLine_preamble houtcomes (by decide) hcounter line h
  · exact ((oneLine_series houtcomes (oneLine_labels_outcome e.1)).append hspace).append
      (oneLine_toString e.2)

theorem splitOn_text (r : Registry) :
    splitOn '\n' r.text.toList = r.lines.map String.toList ++ [[]] := by
  have htext : r.text.toList = (r.lines.map String.toList).flatMap (· ++ ['\n']) := by
    have hfeed : String.toList ∘ (· ++ "\n") = fun line => line.toList ++ ['\n'] :=
      funext fun line => String.toList_append
    unfold Registry.text
    rw [String.toList_intercalate]
    show List.intercalate [] _ = _
    rw [intercalate_nil_eq_flatten, List.map_map, hfeed, List.flatMap_map, List.flatMap_def]
  -- Every line ends with a line feed, so that an empty piece is left after the last one.
  rw [htext]
  apply splitOn_flatMap
  intro piece hp
  obtain ⟨line, hline, rfl⟩ := List.mem_map.mp hp
  exact oneLine_lines r line hline

/-! ## Samples -/

/-- The line has a sample of the metric. -/
def isSample (name : String) (line : List Char) : Bool := (name ++ "\x7b").toList.isPrefixOf line

/-- The number behind the last space of a line. -/
def sampleValue (line : List Char) : Nat :=
  Number.ofDigits 10
    ((line.reverse.takeWhile (· ≠ ' ')).reverse.map fun c => c.toNat - '0'.toNat)

/-- The numbers of the samples of a metric in a text. -/
def samples (name : String) (text : String) : List Nat :=
  ((splitOn '\n' text.toList).filter (isSample name)).map sampleValue

theorem sampleValue_line (s : String) (n : Nat) :
    sampleValue (s ++ " " ++ toString n).toList = n := by
  have hline : (s ++ " " ++ toString n).toList = s.toList ++ ' ' :: Nat.toDigits 10 n := by
    rw [String.toList_append, String.toList_append, Nat.toString_eq_repr, Nat.toList_repr,
      List.append_assoc]
    rfl
  have hdigits : ∀ c ∈ (Nat.toDigits 10 n).reverse, decide (c ≠ ' ') = true := by
    intro c hc
    have hdigit := Nat.isDigit_of_mem_toDigits (by omega) (by omega) (List.mem_reverse.mp hc)
    rw [decide_eq_true_eq]
    rintro rfl
    exact absurd hdigit (by decide)
  have hlast : (s.toList ++ ' ' :: Nat.toDigits 10 n).reverse.takeWhile (· ≠ ' ') =
      (Nat.toDigits 10 n).reverse := by
    rw [List.reverse_append, List.reverse_cons, List.append_assoc, List.singleton_append,
      List.takeWhile_append_of_pos hdigits, List.takeWhile_cons_of_neg (by decide),
      List.append_nil]
  -- The digits reach from the end to the first space, as none of them is a space.
  unfold sampleValue
  rw [hline, hlast, List.reverse_reverse, Number.ofDigits_toDigits]

theorem isSample_series (name : String) (labels : List String) (rest : String) :
    isSample name (series name labels ++ rest).toList = true := by
  have hsplit : (series name labels ++ rest).toList =
      (name ++ "\x7b").toList ++ (",".intercalate labels ++ "\x7d" ++ rest).toList := by
    unfold series
    simp only [String.toList_append, List.append_assoc]
  unfold isSample
  rw [hsplit, List.isPrefixOf_iff_prefix]
  exact List.prefix_append _ _

theorem not_isSample_series {name other : String} (labels : List String) (rest : String)
    (long : (name ++ "\x7b").toList.length ≤ (other ++ "\x7b").toList.length)
    (differs : ¬ (name ++ "\x7b").toList <+: (other ++ "\x7b").toList) :
    isSample name (series other labels ++ rest).toList = false := by
  have hsplit : (series other labels ++ rest).toList =
      (other ++ "\x7b").toList ++ (",".intercalate labels ++ "\x7d" ++ rest).toList := by
    unfold series
    simp only [String.toList_append, List.append_assoc]
  unfold isSample
  rw [hsplit, Bool.eq_false_iff, ne_eq, List.isPrefixOf_iff_prefix]
  exact fun h => differs (List.prefix_of_prefix_length_le h (List.prefix_append _ _) long)

theorem not_isSample_preamble {name : String} (letter : name.toList.head? = some 'o')
    (other help type : String) :
    ∀ line ∈ preamble other help type, isSample name line.toList = false := by
  -- These lines begin with a hash, and the name does not.
  have hhash {line : List Char} (h : line.head? = some '#') : isSample name line = false := by
    unfold isSample
    rw [String.toList_append]
    cases hn : name.toList with
    | nil => rw [hn] at letter; cases letter
    | cons c cs =>
      rw [hn] at letter
      obtain rfl := Option.some.inj letter
      cases line with
      | nil => rfl
      | cons d ds =>
        obtain rfl := Option.some.inj h
        rfl
  have hhelp : "# HELP ".toList = '#' :: " HELP ".toList := by decide
  have htype : "# TYPE ".toList = '#' :: " TYPE ".toList := by decide
  refine List.forall_mem_cons.mpr ⟨hhash ?_, List.forall_mem_singleton.mpr (hhash ?_)⟩
  · simp only [String.toList_append, hhelp, List.cons_append, List.head?_cons]
  · simp only [String.toList_append, htype, List.cons_append, List.head?_cons]

/-- The line for the count of some requests. -/
def requestLine (e : Traffic × Nat) : String :=
  series requestsName e.1.labels ++ " " ++ toString e.2

theorem sampleValue_requestLine (e : Traffic × Nat) : sampleValue (requestLine e).toList = e.2 := by
  unfold requestLine
  exact sampleValue_line (series requestsName e.1.labels) e.2

theorem filter_eq_nil {lines : List String}
    (h : ∀ line ∈ lines, isSample requestsName line.toList = false) :
    (lines.map String.toList).filter (isSample requestsName) = [] := by
  rw [List.filter_eq_nil_iff]
  intro piece hp
  obtain ⟨line, hline, rfl⟩ := List.mem_map.mp hp
  rw [h line hline]
  exact Bool.false_ne_true

/-- Of the lines of the text those for the counts of the requests have samples of them. -/
theorem filter_lines (r : Registry) :
    (r.lines.map String.toList).filter (isSample requestsName) =
      r.sortedRequests.map fun e => (requestLine e).toList := by
  have hrequests : ((r.sortedRequests.map requestLine).map String.toList).filter
      (isSample requestsName) = r.sortedRequests.map fun e => (requestLine e).toList := by
    rw [List.map_map, List.filter_eq_self.mpr]
    · rfl
    · intro piece hp
      obtain ⟨e, -, rfl⟩ := List.mem_map.mp hp
      show isSample requestsName (series requestsName e.1.labels ++ " " ++ _).toList = true
      rw [String.append_assoc]
      exact isSample_series _ _ _
  have hdurations : ∀ line ∈ r.sortedDurations.flatMap (fun e =>
      [series (durationName ++ "_count") e.1.labels ++ s!" {e.2.count}",
       series (durationName ++ "_sum") e.1.labels ++ " " ++ Number.shortest e.2.seconds]),
      isSample requestsName line.toList = false := by
    intro line hline
    obtain ⟨e, -, h⟩ := List.mem_flatMap.mp hline
    rcases List.mem_cons.mp h with rfl | h
    · exact not_isSample_series _ _ (by decide) (by decide)
    · rw [List.mem_singleton.mp h, String.append_assoc]
      exact not_isSample_series _ _ (by decide) (by decide)
  have houtcomes : ∀ line ∈ r.sortedOutcomes.map (fun e =>
      s!"{series outcomesName e.1.labels} {e.2}"), isSample requestsName line.toList = false := by
    intro line hline
    obtain ⟨e, -, rfl⟩ := List.mem_map.mp hline
    show isSample requestsName (series outcomesName e.1.labels ++ " " ++ _).toList = false
    rw [String.append_assoc]
    exact not_isSample_series _ _ (by decide) (by decide)
  have hlines : r.lines = preamble requestsName "Total HTTP requests seen by the service."
      "counter" ++ r.sortedRequests.map requestLine ++
    preamble durationName "End-to-end HTTP request duration in seconds." "summary" ++
    r.sortedDurations.flatMap (fun e =>
      [series (durationName ++ "_count") e.1.labels ++ s!" {e.2.count}",
       series (durationName ++ "_sum") e.1.labels ++ " " ++ Number.shortest e.2.seconds]) ++
    preamble outcomesName "Token endpoint requests by grant type and outcome." "counter" ++
    r.sortedOutcomes.map (fun e => s!"{series outcomesName e.1.labels} {e.2}") := rfl
  have hletter : requestsName.toList.head? = some 'o' := by decide
  -- Of the six parts of the text only the second one has samples of the requests.
  rw [hlines]
  simp only [List.map_append, List.filter_append]
  rw [hrequests, filter_eq_nil hdurations, filter_eq_nil houtcomes,
    filter_eq_nil (not_isSample_preamble hletter _ _ _),
    filter_eq_nil (not_isSample_preamble hletter _ _ _),
    filter_eq_nil (not_isSample_preamble hletter _ _ _)]
  simp only [List.nil_append, List.append_nil]

/-- The samples of the requests in the text are the counts of the requests. -/
theorem samples_text (r : Registry) :
    samples requestsName r.text = r.sortedRequests.map (·.2) := by
  have hend : [[]].filter (isSample requestsName) = [] := by decide
  unfold samples
  rw [splitOn_text, List.filter_append, filter_lines, hend, List.append_nil, List.map_map]
  apply List.map_congr_left
  intro e _
  rw [Function.comp_apply, sampleValue_requestLine]

/-- The samples of the requests in the text add up to all requests that were counted. -/
theorem sum_samples_text (r : Registry) :
    (samples requestsName r.text).sum = r.requestTotal := by
  have hall (entries : List (Traffic × Nat)) :
      Assoc.total (fun _ => true) entries = (entries.map (·.2)).sum := by
    unfold Assoc.total
    rw [List.filter_eq_self.mpr fun _ _ => rfl]
  have hsorted : r.sortedRequests.Perm r.requests := sortByKey_perm trafficKey r.requests
  rw [samples_text, ← hall, Assoc.total_perm _ hsorted]
  rfl

end TokenIssuer.Metrics
