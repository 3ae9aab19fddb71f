import TokenIssuer.Proofs.Scope.Format
import TokenIssuer.Proofs.Service.Introspection
import TokenIssuer.Proofs.Settings.Scopes

/-!
The scopes that answers tell of a token. They are told as the one text that writes the set, so that
a client that sends the text back asks for what it was granted, no more and no less.
-/

namespace TokenIssuer.Service

open Http Store

variable {registry : Scope.Registry} {scopes : Option (List String)}

/-- A form with the text for its scopes asks for the granted ones; where there is no text, a form
without one asks for none. -/
def AsksForGranted (registry : Scope.Registry) (text : Option String)
    (granted : Option (List String)) : Prop :=
  ∀ form : Form, form.lookup "scope" = text → registry.parse (form.lookup "scope") = .ok granted

theorem asksForGranted_of_asks {form : Form} {accepted : Grant.Password.Accepted}
    (h : Grant.Asks registry form accepted) :
    AsksForGranted registry (accepted.scopes.map Scope.format) accepted.scopes := by
  intro other hother
  have hparse := h.scopes.parse
  rw [hother]
  cases hgranted : accepted.scopes with
  | none => rfl
  | some set =>
    -- The granted set was read from a text itself.
    rw [hgranted] at hparse
    cases hasked : form.lookup "scope" with
    | none => rw [hasked] at hparse; cases hparse
    | some raw =>
      rw [hasked] at hparse
      exact Scope.Registry.parse_format_of_parse hparse

/-- What the answers tell of the scopes of a token that was given out. -/
structure TellsGranted (app : Application) (after : State Data) (fresh : Grant.Fresh)
    (response : Response) (token : AccessToken) (scope : Option String) : Prop where
  given : response.body =
    .json (givenBody fresh.accessToken fresh.refreshToken app.rules.lifetime scope)
  filed : after.data.tokens.get? fresh.accessToken = some token
  told : ∀ raw, Denotes raw fresh.accessToken →
    Told app after raw (activeBody token.client.text token.username scope)
  again : AsksForGranted app.rules.registry scope token.scopes

theorem tellsGranted_of_issues {app : Application} {start : State Data} {given : List Uuid}
    {later : List Step} {request : Request} {fresh : Grant.Fresh} {seconds : Double}
    (tidy : Tidy app given start (.serve request fresh seconds :: later))
    (issues : Issues app request fresh seconds start)
    (up : .tokens ∉ (app.run start (.serve request fresh seconds :: later)).data.down) :
    ∃ response token scope,
      (app.serve request fresh seconds start).response = some response ∧
        TellsGranted app (app.run start (.serve request fresh seconds :: later)) fresh response
          token scope := by
  obtain ⟨form, credentials, accepted, hgrantable, hresponse, hkeeps⟩ :=
    Keeps.of_issues tidy issues
  refine ⟨_, Grant.accessToken fresh accepted, accepted.scopes.map Scope.format, hresponse, ?_⟩
  refine ⟨?_, hkeeps.access, fun raw hraw => ?_, asksForGranted_of_asks hgrantable.asks⟩
  · exact congrArg Body.json (issuedBody_eq (Grant.issuedTokens app.rules fresh accepted))
  · have hdenotes : Denotes raw (Grant.accessToken fresh accepted).id := hraw
    exact Told.active app up hdenotes hkeeps.access

/-- Where the known scopes are those of accepted settings, every set of some of them is read again
from what is written of it, in whatever order its members are listed. A text that is read is written
anew as the canonical text of its names: reading and writing that once more changes nothing, and it
is the same text exactly for texts of the same names. What is told of the scopes of a token, in the
answer that gives it out and by introspection in any tidy run after it, asks for the granted ones
when it is sent back. Settings may also hold names with half of a surrogate pair; these stand in no
text that is sent, and are left out. -/
theorem scopes_are_told_as_they_are_asked_for (settings : Settings) (value : Json)
    (accepted : Settings.readScopes value = .ok settings.scopes) :
    (∀ members : List String, members ≠ [] → members.Nodup →
        (∀ name ∈ members, name ∈ settings.registry.names) →
        settings.registry.parse (some (Scope.format members)) =
          .ok (some (Text.setOf members))) ∧
      (∀ raw asked set, Scope.Lists raw asked →
        settings.registry.parse (some raw) = .ok (some set) →
        (∀ name, name ∈ set ↔ name ∈ asked) ∧
          (∀ members : List String, members.Perm set →
            Scope.Canonical (Scope.format members) set) ∧
          settings.registry.parse (some (Scope.format set)) = .ok (some set) ∧
          ∀ other more found, Scope.Lists other more →
            settings.registry.parse (some other) = .ok (some found) →
            (Scope.format found = Scope.format set ↔ ∀ name, name ∈ more ↔ name ∈ asked)) ∧
      ∀ (app : Application) (start : State Data) (earlier later : List Step) (request : Request)
          (fresh : Grant.Fresh) (seconds : Double),
        Tidy app [] start (earlier ++ .serve request fresh seconds :: later) →
        Issues app request fresh seconds (app.run start earlier) →
        .tokens ∉ (app.run start (earlier ++ .serve request fresh seconds :: later)).data.down →
        ∃ response token scope,
          (app.serve request fresh seconds (app.run start earlier)).response = some response ∧
            TellsGranted app (app.run start (earlier ++ .serve request fresh seconds :: later))
              fresh response token scope := by
  refine ⟨?_, ?_, ?_⟩
  · intro members hne hnodup hknown
    refine Scope.Registry.parse_format hne hnodup (fun name hname => ?_) hknown
    -- A known name is one of the accepted ones, as a text of characters.
    obtain ⟨scope, hscope, hplain⟩ :=
      List.mem_filterMap.mp ((Text.mem_setOf name _).mp (hknown name hname))
    cases scope with
    | torn codePoints => cases hplain
    | plain text =>
      cases hplain
      exact Settings.nameable_of_readScopes accepted hscope
  · intro raw asked set hraw hparse
    have hcanonical := Scope.Registry.canonical_of_parse hparse
    have hmem {raw : String} {asked set : List String} (hraw : Scope.Lists raw asked)
        (hparse : settings.registry.parse (some raw) = .ok (some set)) (name : String) :
        name ∈ set ↔ name ∈ asked := by
      rw [(Scope.Registry.eq_setOf_of_parse hparse).1, Text.mem_setOf, Scope.lists_iff.mp hraw]
    refine ⟨hmem hraw hparse, fun members hperm => ?_, ?_, ?_⟩
    · have hnodup := hperm.nodup_iff.mpr (Text.nodup_of_strict hcanonical.ordered)
      rw [Scope.format_eq_spaced hnodup, Text.setOf_congr fun name => hperm.mem_iff,
        Text.setOf_of_strict hcanonical.ordered]
      exact ⟨rfl, hcanonical.ordered, hcanonical.filled, hcanonical.named⟩
    · exact Scope.Registry.parse_format_of_parse hparse
    · intro other more found hother hfound
      have hmore := Scope.Registry.canonical_of_parse hfound
      rw [hcanonical.eq_iff hmore]
      constructor
      · rintro rfl name
        rw [← hmem hother hfound, hmem hraw hparse]
      · intro hsame
        apply Text.eq_of_strict hcanonical.ordered hmore.ordered
        intro name
        rw [hmem hraw hparse, hmem hother hfound, hsame]
  · intro app start earlier later request fresh seconds htidy hissues hup
    obtain ⟨given, hrest⟩ := htidy.drop
    rw [Application.run_append] at hup ⊢
    exact tellsGranted_of_issues hrest hissues hup

/-- Two scopes, one with a tab inside, are listed in another order than they are written in; a text
with other blanks and in that order is read as the same set. -/
theorem scopes_are_told_as_they_are_asked_for_demo :
    (Scope.Registry.ofNames ["write", "read\tall"]).parse
          (some (Scope.format ["write", "read\tall"])) = .ok (some ["read\tall", "write"]) ∧
      Scope.Canonical (Scope.format ["write", "read\tall"]) ["read\tall", "write"] ∧
      ∃ stores response token scope,
        Application.standard.startStores (List.replicate 8 1) ⟨4⟩ = .ok stores ∧
          (Application.standard.serve Demo.tokenRequest Demo.fresh (.signedZero false)
            ⟨.empty, stores⟩).response = some response ∧
          TellsGranted .standard
            (Application.standard.run ⟨.empty, stores⟩
              [.serve Demo.tokenRequest Demo.fresh (.signedZero false)])
            Demo.fresh response token scope := by
  obtain ⟨hsets, htexts, hgranted⟩ := scopes_are_told_as_they_are_asked_for
    { Settings.standard with scopes := [.plain "write", .plain "read\tall"] }
    (.ofTexts ["write", "read\tall"]) rfl
  have hread : (Scope.Registry.ofNames ["write", "read\tall"]).parse
      (some " write \t read\tall\u00A0 ") = .ok (some ["read\tall", "write"]) := by rfl
  obtain ⟨-, hcanonical, -, -⟩ := htexts _ _ _ (Scope.lists_iff.mpr rfl) hread
  refine ⟨hsets ["write", "read\tall"] (List.cons_ne_nil _ _) (by decide) (by decide),
    hcanonical _ (List.Perm.swap _ _ _), ?_⟩
  obtain ⟨hash, hs, hv⟩ := Demo.startStores_standard
  obtain ⟨hresponse, hdata⟩ := serve_demo hv Demo.fresh (.signedZero false) .empty
  have hissues : Issues .standard Demo.tokenRequest Demo.fresh (.signedZero false)
      ⟨.empty, Demo.stores ⟨4⟩ hash⟩ := ⟨⟨rfl, .inl rfl⟩, by rw [hresponse]; rfl⟩
  have htidy : Tidy .standard [] ⟨.empty, Demo.stores ⟨4⟩ hash⟩
      [.serve Demo.tokenRequest Demo.fresh (.signedZero false)] :=
    .issue hissues ⟨List.not_mem_nil, rfl⟩ ⟨List.not_mem_nil, rfl⟩ (by decide) .done
  have hup : .tokens ∉ (Application.standard.run ⟨.empty, Demo.stores ⟨4⟩ hash⟩
      [.serve Demo.tokenRequest Demo.fresh (.signedZero false)]).data.down := by
    rw [Application.run_cons, Application.run_nil, Application.data_step_serve, hdata]
    exact List.not_mem_nil
  obtain ⟨response, token, scope, hserved, htold⟩ := hgranted .standard ⟨.empty, _⟩ [] []
    Demo.tokenRequest Demo.fresh (.signedZero false) htidy hissues hup
  exact ⟨_, response, token, scope, hs, hserved, htold⟩

end TokenIssuer.Service
