import TokenIssuer.Proofs.Demo
import TokenIssuer.Proofs.Http.Presentation
import TokenIssuer.Proofs.Service.Secrecy
import TokenIssuer.Proofs.Service.Traffic

/-! What clients present is read as they meant it, and its scheme is logged as basic. -/

namespace TokenIssuer.Service

open Http Store

/-- The log tells the scheme of the header: in every note that the request is answered it is Basic,
in lower case, and there is one such note if the address of the request can be told. -/
structure LogsBasic (app : Application) (frame : Frame) (state : State Data) : Prop where
  scheme : ∀ entry ∈ completions (app.service.serve frame state).logs,
    entry.call.fields.lookup "authorization_scheme" = some (.str "basic")
  once (readable : frame.request.addressFault? = none) :
    (completions (app.service.serve frame state).logs).length = 1

theorem logsBasic_of_isBasic (app : Application) {frame : Frame} (state : State Data)
    (h : Basic.IsBasic (frame.request.header? "authorization")) : LogsBasic app frame state := by
  cases haddress : frame.request.addressFault? with
  | some fault =>
    -- The address cannot be read, and before it is nothing is logged.
    have hlogs : (app.service.serve frame state).logs = [] := by
      rw [serve_eq_of_address app frame state haddress]
    constructor
    · rw [hlogs]
      exact fun entry he => absurd he List.not_mem_nil
    · intro readable
      rw [haddress] at readable
      cases readable
  | none =>
    have hcompletions := completions_serve app state haddress
    constructor
    · rw [hcompletions]
      intro entry he
      rw [List.mem_singleton.mp he]
      show some (Json.ofText? frame.request.authorizationScheme) = some (.str "basic")
      rw [scheme_of_isBasic h]
      rfl
    · intro _
      rw [hcompletions]
      rfl

/-- Credentials are read from a header as a client writes them: in whatever way the parts are
form-encoded, how the word Basic is spelled, and how many spaces or blanks there are. The usual
encoding is one of the ways, since it leaves no colon in any text. Conversely credentials that are
read name a client, and the log calls their scheme basic. -/
theorem basic_credentials_round_trip (app : Application) (state : State Data) :
    (∀ header credentials id secret, credentials.clientId ≠ "" →
        Percent.Spells id credentials.clientId.toList → ':' ∉ id →
        Percent.Spells secret credentials.secret.toList →
        Basic.Presents header (id ++ ':' :: secret) →
        Basic.read (some (String.ofList header)) = .ok (some credentials)) ∧
      (∀ text, Percent.Spells (Percent.encodeForm text) text ∧
        ':' ∉ Percent.encodeForm text) ∧
      (∀ header credentials, Basic.read header = .ok (some credentials) →
        credentials.clientId ≠ "" ∧
          ∀ frame : Frame, frame.request.header? "authorization" = header →
            LogsBasic app frame state) := by
  refine ⟨fun header credentials id secret named hid hcolon hsecret presents => ?_,
    fun text => ⟨Percent.spells_encodeForm text, Percent.colon_notMem_encodeForm text⟩,
    fun header credentials read => ?_⟩
  · rw [← String.toList_ofList (l := header)] at presents
    exact Basic.read_of_presents named hid hcolon hsecret presents
  · have hholds := Basic.read_eq_some_iff.mp read
    refine ⟨hholds.named, fun frame hheader => logsBasic_of_isBasic app state ?_⟩
    rw [hheader]
    exact hholds.1

/-- Credentials that are full of what the encoding means something by. -/
def awkwardCredentials : Basic.Credentials := ⟨"a:b+c%é ", ": +%"⟩

def awkwardHeader : String := " bAsIc   YSUzQWIlMkJjJTI1JUMzJUE5KzolM0ErJTJCJTI1\t"

theorem presents_awkwardHeader :
    Basic.Presents awkwardHeader.toList
      (Percent.encodeForm awkwardCredentials.clientId.toList ++
        ':' :: Percent.encodeForm awkwardCredentials.secret.toList) :=
  ⟨[' '], "bAsIc".toList, 2, ['\t'], by decide, Text.blank_of_allBlank rfl,
    Text.blank_of_allBlank rfl, by decide⟩

theorem basic_credentials_round_trip_awkward :
    Basic.read (some awkwardHeader) = .ok (some awkwardCredentials) ∧
      LogsBasic .standard
        (.enter (Demo.request awkwardHeader "/token" "") Demo.fresh (.signedZero false))
        ⟨.empty, .empty⟩ := by
  obtain ⟨hread, hencode, hlogs⟩ := basic_credentials_round_trip .standard ⟨.empty, .empty⟩
  have hawkward : Basic.read (some awkwardHeader) = .ok (some awkwardCredentials) := by
    have h := hread awkwardHeader.toList awkwardCredentials _ _ (by decide) (hencode _).1
      (hencode _).2 (hencode _).1 presents_awkwardHeader
    rwa [String.ofList_toList] at h
  exact ⟨hawkward, (hlogs _ _ hawkward).2 _ (Demo.header_request awkwardHeader "/token" "")⟩

end TokenIssuer.Service
