import TokenIssuer.Proofs.Service.Operation

/-!
The realm in the challenge. It is written between quotes as it is, while who reads the challenge
takes a quote for the end of the realm, and a backslash for a mark in front of the next character.
-/

namespace TokenIssuer.Http

/-! ## Quoted texts in headers -/

namespace Quoted

variable {s text rest : List Char} {c : Char} {escaped : Bool}

/-- The control characters of ASCII, the tab among them. -/
def isControl (c : Char) : Bool := c.toNat < 0x20 || c.toNat == 0x7F

/-- Reads a quoted text behind its first quote, up to the quote that ends it, and what follows. A
backslash escapes the next character, which is then taken as it is. -/
def readInside (escaped : Bool) : List Char → Option (List Char × List Char)
  | [] => none
  | c :: cs =>
    if isControl c then none
    else if c = '"' ∧ ¬ escaped then some ([], cs)
    else if c = '\\' ∧ ¬ escaped then readInside true cs
    else (readInside false cs).map fun (text, rest) => (c :: text, rest)

/-- Reads a quoted text, and what follows it. -/
def read : List Char → Option (List Char × List Char)
  | [] => none
  | c :: cs => if c = '"' then readInside false cs else none

/-- The character stands for itself between quotes. -/
structure Plain (c : Char) : Prop where
  notQuote : c ≠ '"'
  notSlash : c ≠ '\\'
  notControl : isControl c = false

instance (c : Char) : Decidable (Plain c) :=
  decidable_of_iff (c ≠ '"' ∧ c ≠ '\\' ∧ isControl c = false)
    ⟨fun h => ⟨h.1, h.2.1, h.2.2⟩, fun h => ⟨h.notQuote, h.notSlash, h.notControl⟩⟩

theorem readInside_of_plain (h : Plain c) (cs : List Char) :
    readInside false (c :: cs) =
      (readInside false cs).map fun (text, rest) => (c :: text, rest) := by
  rw [readInside, h.notControl, if_neg Bool.false_ne_true, if_neg fun he => h.notQuote he.1,
    if_neg fun he => h.notSlash he.1]

/-- Of what there is, the quote at the end is not read as a part of the text. -/
theorem length_readInside (h : readInside escaped s = some (text, rest)) :
    text.length + rest.length < s.length := by
  -- The quote that ends the text is neither in it nor in the rest, so the bound is strict.
  induction s generalizing escaped text rest with
  | nil => cases h
  | cons c cs ih =>
    rw [List.length_cons]
    rw [readInside] at h
    split at h
    · cases h
    split at h
    · cases h
      rw [List.length_nil]
      omega
    split at h
    · have hless := ih h
      omega
    · obtain ⟨⟨more, left⟩, hmore, h⟩ := Option.map_eq_some_iff.mp h
      cases h
      have hless := ih hmore
      rw [List.length_cons]
      omega

theorem readInside_append (h : ∀ c ∈ s, Plain c) (rest : List Char) :
    readInside false (s ++ '"' :: rest) = some (s, rest) := by
  induction s with
  | nil =>
    have hopen : isControl '"' = false := by decide
    rw [List.nil_append, readInside, hopen, if_neg Bool.false_ne_true,
      if_pos ⟨rfl, Bool.false_ne_true⟩]
  | cons c cs ih =>
    obtain ⟨hc, hcs⟩ := List.forall_mem_cons.mp h
    rw [List.cons_append, readInside_of_plain hc, ih hcs]
    rfl

/-- A text between quotes that is read as a whole has only characters that stand for themselves. -/
theorem plain_of_readInside (h : readInside false (s ++ ['"']) = some (s, [])) :
    ∀ c ∈ s, Plain c := by
  induction s with
  | nil => exact List.forall_mem_nil _
  | cons c cs ih =>
    rw [List.cons_append, readInside] at h
    split at h
    next => cases h
    next hcontrol =>
      split at h
      next => cases h
      next hquote =>
        split at h
        next =>
          -- Without the backslash that was read over, the rest is too short for the whole text.
          have hless := length_readInside h
          simp only [List.length_cons, List.length_append, List.length_nil] at hless
          omega
        next hslash =>
          obtain ⟨⟨more, left⟩, hmore, h⟩ := Option.map_eq_some_iff.mp h
          cases h
          have hplain : Plain c :=
            ⟨fun he => hquote ⟨he, Bool.false_ne_true⟩, fun he => hslash ⟨he, Bool.false_ne_true⟩,
              Bool.eq_false_iff.mpr hcontrol⟩
          exact List.forall_mem_cons.mpr ⟨hplain, ih hmore⟩

theorem read_quoted_iff : read ('"' :: s ++ ['"']) = some (s, []) ↔ ∀ c ∈ s, Plain c := by
  rw [List.cons_append, read, if_pos rfl]
  exact ⟨plain_of_readInside, fun h => readInside_append h []⟩

end Quoted

end TokenIssuer.Http

namespace TokenIssuer.Service

open Http Store

variable {app : Application} {frame : Frame} {request : Request} {state : State Data}
  {recognition : Recognition} {fault : Fault}

/-! ## The challenge -/

/-- The response asks to authenticate, once, for a realm that is read as the given one. -/
structure AsksFor (realm : Phrase) (response : Response) : Prop where
  status : response.status = 401
  line : ∃ quoted text,
    response.headers.named "www-authenticate" =
        [("www-authenticate", "Basic realm=" ++ quoted)] ∧
      Quoted.read quoted.toList = some (text, []) ∧ realm = .plain (String.ofList text)

/-- The layers add no line but of the names they are there for. -/
theorem named_dressed {name : String} (hn : name ≠ Request.correlationHeader)
    (hother : name ∉ Layer.defaultSecurity.map fun h => Text.lowered h.1) (frame : Frame)
    (own : Response) : (dressed frame own).headers.named name = own.headers.named name := by
  unfold dressed
  rw [Headers.named_set_of_ne hn]
  exact named_putDefaults_of_notMem hother _

theorem named_challenge_dressed (frame : Frame) (own : Response) :
    (dressed frame own).headers.named "www-authenticate" =
      own.headers.named "www-authenticate" :=
  named_dressed (by decide) (by decide) frame own

theorem named_refusal (frame : Frame) (realm : String) :
    (dressed frame (Failure.refusal realm)).headers.named "www-authenticate" =
      [("www-authenticate", "Basic realm=" ++ ("\"" ++ realm ++ "\""))] := by
  have hline : Failure.challengeLine realm = "Basic realm=" ++ ("\"" ++ realm ++ "\"") := by
    rw [← String.toList_inj, Failure.challengeLine_eq]
    simp only [String.toList_append]
    rfl
  rw [named_challenge_dressed, ← hline]
  rfl

/-- A realm is read as it was written exactly when all its characters stand for themselves. -/
theorem asksFor_refusal_iff (frame : Frame) (realm : String) :
    AsksFor (.plain realm) (dressed frame (Failure.refusal realm)) ↔
      ∀ c ∈ realm.toList, Quoted.Plain c := by
  have hquoted : ("\"" ++ realm ++ "\"").toList = '"' :: realm.toList ++ ['"'] := by
    rw [String.toList_append, String.toList_append]
    rfl
  have hnamed := named_refusal frame realm
  rw [← Quoted.read_quoted_iff, ← hquoted]
  constructor
  · rintro ⟨-, quoted, text, hsingle, hread, hrealm⟩
    rw [hnamed] at hsingle
    have hsame := (Prod.mk.inj (List.singleton_inj.mp hsingle)).2
    rw [(String.append_right_inj _).mp hsame, hread, Phrase.plain.inj hrealm, String.toList_ofList]
  · intro h
    exact ⟨rfl, _, _, hnamed, h, by rw [String.ofList_toList]⟩

theorem not_asksFor_of_status {realm : Phrase} {response : Response}
    (h : response.status ≠ 401) : ¬ AsksFor realm response :=
  fun asks => h asks.status

/-- A response without a challenge asks for nothing. -/
theorem not_asksFor_unchallenged (frame : Frame) (realm : Phrase) {own : Response}
    (h : own.headers = [("content-type", "application/json")]) :
    ¬ AsksFor realm (dressed frame own) := by
  rintro ⟨-, quoted, text, hsingle, -⟩
  rw [named_challenge_dressed, h] at hsingle
  cases hsingle

/-! ## Requests that are not authenticated -/

/-- At one of the two endpoints, this is the recognition of the client of a request with a form. -/
inductive Attempt (frame : Frame) (stores : Stores) : Recognition → Prop where
  | token {form : Form} (post : frame.request.Is "POST" "/token")
      (formed : Form.read frame.request = .ok form) :
      Attempt frame stores (.ofRequest frame (Authentication.ofStores stores) form)
  | introspect {form : Form} (post : frame.request.Is "POST" "/introspect")
      (formed : Form.read frame.request = .ok form) :
      Attempt frame stores (.ofConfidential frame (Authentication.ofStores stores))

theorem Attempt.ends {stores : Stores} (attempt : Attempt frame stores recognition) :
    recognition.Ends := by
  cases attempt with
  | token => exact Recognition.ofRequest_ends frame _ _
  | introspect => exact Recognition.ofConfidential_ends frame _

/-- Without a client, what recognition ends in is the reply. -/
theorem Attempt.replied (attempt : Attempt (inside frame) state.data recognition)
    (h : recognition.result = .error fault) :
    (Service.replied app frame state).result = .error fault := by
  cases attempt with
  | token post formed =>
    have hpost : frame.request.Is "POST" "/token" := post
    rw [replied_of_token hpost]
    exact (tokenEndpoint_guarded app.rules).result_of_refused formed h
  | introspect post formed =>
    have hpost : frame.request.Is "POST" "/introspect" := post
    rw [replied_of_introspect hpost]
    exact introspectEndpoint_guarded.result_of_refused formed h

theorem sent_unauthenticated {realm : String} (sends : app.service.policy.Sends realm)
    (readable : frame.request.addressFault? = none) :
    sent app frame (answered app (inside frame) (.error .unauthenticated)) =
      dressed frame (Failure.refusal realm) := by
  have hr : (inside frame).request.addressFault? = none := readable
  show sent app frame (Failure.handle app.service.policy (inside frame).request
    (inside frame).noted .unauthenticated).2 = _
  rw [Failure.handle_unauthenticated_plain sends.1 sends.2 hr]
  rfl

theorem not_asksFor_sent_unsendable (app : Application) (frame : Frame) (realm : Phrase)
    (unsendable : ∀ realm, ¬ app.service.policy.Sends realm) :
    ¬ AsksFor realm (sent app frame (answered app (inside frame) (.error .unauthenticated))) := by
  have hanswered : answered app (inside frame) (.error .unauthenticated) =
      (Failure.handle app.service.policy (inside frame).request (inside frame).noted
        .unauthenticated).2 := rfl
  rw [hanswered]
  cases ha : (Failure.handle app.service.policy (inside frame).request (inside frame).noted
      .unauthenticated).2 with
  | error fault => exact not_asksFor_of_status (by show (500 : Int) ≠ 401; omega)
  | ok own =>
    exact not_asksFor_unchallenged frame _
      (Failure.handle_unauthenticated_unsendable unsendable ha)

/-- What a refusal of the client is answered with asks for the realm exactly when that one can be
sent and is read as it was written. -/
theorem asksFor_sent_iff (app : Application) (frame : Frame)
    (readable : frame.request.addressFault? = none) :
    AsksFor app.settings.realm (sent app frame (answered app (inside frame)
        (.error .unauthenticated))) ↔
      ∃ realm, app.settings.realm = .plain realm ∧
        ∀ c ∈ realm.toList, c.toNat < 0x100 ∧ Quoted.Plain c := by
  by_cases hsends : ∃ realm, app.service.policy.Sends realm
  · obtain ⟨realm, hplain, hlatin⟩ := hsends
    have hrealm : app.settings.realm = .plain realm := hplain
    rw [sent_unauthenticated ⟨hplain, hlatin⟩ readable, hrealm, asksFor_refusal_iff]
    constructor
    · intro h
      exact ⟨realm, rfl, fun c hc => ⟨hlatin c hc, h c hc⟩⟩
    · rintro ⟨other, hother, h⟩ c hc
      rw [Phrase.plain.inj hother] at hc
      exact (h c hc).2
  · have hn (realm : String) : ¬ app.service.policy.Sends realm := fun h => hsends ⟨realm, h⟩
    exact iff_of_false (not_asksFor_sent_unsendable app frame _ hn) fun ⟨realm, hrealm, h⟩ =>
      hn realm ⟨hrealm, fun c hc => (h c hc).1⟩

theorem not_asksFor_sent (app : Application) (frame : Frame) (realm : Phrase)
    (h : fault.status ≠ 401) :
    ¬ AsksFor realm (sent app frame (answered app (inside frame) (.error fault))) := by
  apply not_asksFor_of_status
  rcases status_of_sent app frame fault with hstatus | hstatus
  · rw [hstatus]
    exact h
  · rw [hstatus]
    omega

/-- A client that is not recognised is asked, once, to authenticate for the realm of the settings
exactly when it is refused, and not kept from being recognised by a fault, the address of the
request can be told, and all of the realm is Latin-1 and stands for itself between quotes. -/
theorem challenge_tells_realm_iff (app : Application) (request : Request) (fresh : Grant.Fresh)
    (seconds : Double) (state : State Data)
    (attempt : Attempt (inside (.enter request fresh seconds)) state.data recognition)
    (failed : ∀ client, recognition.result ≠ .ok client) :
    (∃ response, (app.serve request fresh seconds state).response = some response ∧
        AsksFor app.settings.realm response) ↔
      recognition.result = .error .unauthenticated ∧ request.addressFault? = none ∧
        ∃ realm, app.settings.realm = .plain realm ∧
          ∀ c ∈ realm.toList, c.toNat < 0x100 ∧ Quoted.Plain c := by
  cases hreadable : request.addressFault? with
  | some address =>
    rw [(serve_of_address app hreadable fresh seconds state).1]
    simp
  | none =>
    have hr : (Frame.enter request fresh seconds).request.addressFault? = none := hreadable
    rw [(serve_of_readable app hreadable fresh seconds state).1, routed_answer]
    simp only [Option.some.injEq, exists_eq_left', true_and]
    -- Of the ways for recognition to end, one alone is answered with a challenge.
    cases attempt.ends with
    | client principal h => exact absurd h (failed principal)
    | nobody h =>
      rw [attempt.replied h, h, asksFor_sent_iff app _ hr]
      simp only [true_and]
    | unreached u h =>
      rw [attempt.replied h, h]
      exact iff_of_false (not_asksFor_sent app _ _ (by show (503 : Int) ≠ 401; omega))
        fun ⟨he, _⟩ => by cases he
    | fails h =>
      obtain ⟨cause, h⟩ := h
      rw [attempt.replied h, h]
      exact iff_of_false (not_asksFor_sent app _ _ (by show (500 : Int) ≠ 401; omega))
        fun ⟨he, _⟩ => by cases he

theorem attempt_anonymousRequest (stores : Stores) (fresh : Grant.Fresh) (seconds : Double) :
    Attempt (inside (.enter anonymousRequest fresh seconds)) stores
      (.ofRequest (inside (.enter anonymousRequest fresh seconds))
        (Authentication.ofStores stores) []) :=
  .token ⟨rfl, .inl rfl⟩ read_anonymousRequest

/-- The service as it comes tells its realm. -/
theorem challenge_tells_realm_demo :
    ∃ response,
      (Application.standard.serve anonymousRequest Demo.fresh (.signedZero false)
        ⟨.empty, .empty⟩).response = some response ∧ AsksFor (.plain "oauth") response := by
  have hrefused := refused_anonymousRequest .empty Demo.fresh (.signedZero false)
  have hfailed : ∀ client, (Recognition.ofRequest (inside (.enter anonymousRequest Demo.fresh
      (.signedZero false))) (Authentication.ofStores .empty) []).result ≠ .ok client := by
    intro client h
    rw [hrefused] at h
    cases h
  have hiff := challenge_tells_realm_iff .standard anonymousRequest Demo.fresh (.signedZero false)
    ⟨.empty, .empty⟩ (attempt_anonymousRequest .empty _ _) hfailed
  exact hiff.mpr ⟨hrefused, rfl, "oauth", rfl, List.all_iff_forall_prop.mp (by decide)⟩

/-- The service as it comes, but for its realm. -/
def Application.ofRealm (realm : String) : Application :=
  { Application.standard with settings := { Settings.standard with realm := .plain realm } }

/-- A realm with a quote in it is accepted, and is read up to the quote. -/
theorem quoted_realm_is_misread :
    Settings.load (.ofEnvironment [("CLIENTS__REALM", "a\"b")]) =
        .ok (Application.ofRealm "a\"b").settings ∧
      Application.ofSettings .bare (Application.ofRealm "a\"b").settings =
        .ok (Application.ofRealm "a\"b") ∧
      (Recognition.ofRequest (inside (.enter anonymousRequest Demo.fresh (.signedZero false)))
        (Authentication.ofStores .empty) []).result = .error .unauthenticated ∧
      ∃ response,
        ((Application.ofRealm "a\"b").serve anonymousRequest Demo.fresh (.signedZero false)
          ⟨.empty, .empty⟩).response = some response ∧
        response.headers.named "www-authenticate" =
          [("www-authenticate", "Basic realm=" ++ ("\"" ++ "a\"b" ++ "\""))] ∧
        Quoted.read ("\"" ++ "a\"b" ++ "\"").toList = some (['a'], ['b', '"']) ∧
        ¬ AsksFor (.plain "a\"b") response := by
  have hreadable : anonymousRequest.addressFault? = none := rfl
  have hrefused := refused_anonymousRequest .empty Demo.fresh (.signedZero false)
  have hsends : (Application.ofRealm "a\"b").service.policy.Sends "a\"b" :=
    ⟨rfl, List.all_iff_forall_prop.mp (by decide)⟩
  have hsent := (serve_of_readable (Application.ofRealm "a\"b") hreadable Demo.fresh
    (.signedZero false) ⟨.empty, .empty⟩).1
  rw [routed_answer, (attempt_anonymousRequest .empty _ _).replied hrefused,
    sent_unauthenticated hsends hreadable] at hsent
  refine ⟨by rfl, by rfl, hrefused, _, hsent, named_refusal _ _, by decide, ?_⟩
  rw [asksFor_refusal_iff]
  exact fun h => (h '"' (by decide)).notQuote rfl

end TokenIssuer.Service
