import TokenIssuer.Proofs.Service.Refusal

/-!
Who is not recognised learns nothing about the clients on file: not whether there is one of that
name, of what type it is, or which secrets are kept for it.
-/

namespace TokenIssuer.Service

open Http Store

variable {rules : Grant.Rules} {request : Request} {frame other : Frame} {state later : State Data}

/-- Against the stores nobody is recognised in the request. -/
structure Unrecognised (stores : Stores) (request : Request) : Prop where
  token : request.Is "POST" "/token" → ∀ form, Form.read request = .ok form →
    ∀ principal,
      ¬ Recognition.Recognises stores (request.header? "authorization") form principal
  introspect : request.Is "POST" "/introspect" → ∀ form, Form.read request = .ok form →
    ∀ principal, ¬ Recognition.Confidential stores (request.header? "authorization") principal

theorem tokenEndpoint_alike (same : frame.request = other.request)
    (post : frame.request.Is "POST" "/token")
    (resolvable : Resolvable state.data (frame.request.header? "authorization"))
    (alsoResolvable : Resolvable later.data (other.request.header? "authorization"))
    (nobody : Unrecognised state.data frame.request)
    (nobodyLater : Unrecognised later.data other.request) :
    RepliesAlike (tokenEndpoint rules frame state) (tokenEndpoint rules other later) := by
  apply (tokenEndpoint_guarded rules).repliesAlike same
  intro form formed
  -- What is on file decides on the result only, and that is the same: nobody.
  have hone := Recognition.ofRequest_of_nobody frame resolvable (nobody.token post form formed)
  rw [same] at post formed
  have hother := Recognition.ofRequest_of_nobody other alsoResolvable
    (nobodyLater.token post form formed)
  refine ⟨hone, hother, Recognition.events_ofRequest_congr ?_ ?_ rfl ?_⟩
  · rw [same]
    exact .refl other.request
  · rw [same]
  · rw [hone, hother]

theorem introspectEndpoint_alike (same : frame.request = other.request)
    (post : frame.request.Is "POST" "/introspect")
    (resolvable : Resolvable state.data (frame.request.header? "authorization"))
    (alsoResolvable : Resolvable later.data (other.request.header? "authorization"))
    (nobody : Unrecognised state.data frame.request)
    (nobodyLater : Unrecognised later.data other.request) :
    RepliesAlike (introspectEndpoint frame state) (introspectEndpoint other later) := by
  apply introspectEndpoint_guarded.repliesAlike same
  intro form formed
  have hone := Recognition.ofConfidential_of_nobody frame resolvable
    (nobody.introspect post form formed)
  rw [same] at post formed
  have hother := Recognition.ofConfidential_of_nobody other alsoResolvable
    (nobodyLater.introspect post form formed)
  refine ⟨hone, hother, Recognition.events_ofConfidential_congr ?_ ?_ ?_⟩
  · rw [same]
    exact .refl other.request
  · rw [same]
  · rw [hone, hother]

/-- Whatever is on file, a request in which nobody is recognised is seen alike: its response, and
the audit events of it. -/
theorem clients_cannot_be_enumerated (app : Application) (request : Request)
    (post : request.Is "POST" "/token" ∨ request.Is "POST" "/introspect")
    (state later : State Data) (fresh next : Grant.Fresh) (seconds duration : Double)
    (resolvable : Resolvable state.data (request.header? "authorization"))
    (alsoResolvable : Resolvable later.data (request.header? "authorization"))
    (nobody : Unrecognised state.data request) (nobodyLater : Unrecognised later.data request) :
    viewOf (app.serve request fresh seconds state) =
      viewOf (app.serve request next duration later) := by
  apply view_congr rfl
  have hsame : (inside (.enter request fresh seconds)).request =
      (inside (.enter request next duration)).request := rfl
  rcases post with htoken | hintrospect
  · have hpost (fresh : Grant.Fresh) (seconds : Double) :
        (Frame.enter request fresh seconds).request.Is "POST" "/token" := htoken
    rw [replied_of_token (hpost _ _), replied_of_token (hpost _ _)]
    exact tokenEndpoint_alike hsame htoken resolvable alsoResolvable nobody nobodyLater
  · have hpost (fresh : Grant.Fresh) (seconds : Double) :
        (Frame.enter request fresh seconds).request.Is "POST" "/introspect" := hintrospect
    rw [replied_of_introspect (hpost _ _), replied_of_introspect (hpost _ _)]
    exact introspectEndpoint_alike hsame hintrospect resolvable alsoResolvable nobody nobodyLater

/-- A secret that is not the one on file is refused as that of a client nobody knows. -/
theorem clients_cannot_be_enumerated_demo :
    viewOf (Application.standard.serve (Demo.request Demo.mistaken "/token" "") Demo.fresh
        (.signedZero false) ⟨.empty, .empty⟩) =
      viewOf (Application.standard.serve (Demo.request Demo.mistaken "/token" "") Demo.fresh
        (.signedZero false) ⟨.empty, Demo.stores ⟨4⟩ "unset"⟩) := by
  have hheader := Demo.header_request Demo.mistaken "/token" ""
  have hotherPath : ¬ (Demo.request Demo.mistaken "/token" "").Is "POST" "/introspect" := by decide
  apply clients_cannot_be_enumerated .standard (Demo.request Demo.mistaken "/token" "")
    (.inl ⟨rfl, .inl rfl⟩)
  · rw [hheader]
    exact resolvable_empty Demo.ascii_mistaken
  · rw [hheader]
    exact resolvable_mistaken ⟨4⟩
  · refine ⟨fun _ form _ principal => ?_, fun h => absurd h hotherPath⟩
    rw [hheader]
    exact Recognition.not_recognises_mistaken_empty
  · refine ⟨fun _ form _ principal => ?_, fun h => absurd h hotherPath⟩
    rw [hheader]
    exact Recognition.not_recognises_mistaken_unset

end TokenIssuer.Service
