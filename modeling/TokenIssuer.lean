import TokenIssuer.Assoc
import TokenIssuer.Audit
import TokenIssuer.Authentication
import TokenIssuer.Cli.Arguments
import TokenIssuer.Cli.Provisioning
import TokenIssuer.Client.Configuration
import TokenIssuer.Client.Principal
import TokenIssuer.Coverage
import TokenIssuer.Crypto.Argon2
import TokenIssuer.Crypto.Blake2b
import TokenIssuer.Demo
import TokenIssuer.Encoding.Base64
import TokenIssuer.Encoding.Percent
import TokenIssuer.Grant.Exchange
import TokenIssuer.Grant.Password
import TokenIssuer.Grant.Refusal
import TokenIssuer.Http.Basic
import TokenIssuer.Http.Failure
import TokenIssuer.Http.Fault
import TokenIssuer.Http.Form
import TokenIssuer.Http.Handler
import TokenIssuer.Http.Layer
import TokenIssuer.Http.Request
import TokenIssuer.Http.Response
import TokenIssuer.Http.Route
import TokenIssuer.Http.Stack
import TokenIssuer.Http.Template
import TokenIssuer.Introspection
import TokenIssuer.Json.Basic
import TokenIssuer.Json.Literal
import TokenIssuer.Json.Order
import TokenIssuer.Json.Parser
import TokenIssuer.Json.Printer
import TokenIssuer.Log.Entry
import TokenIssuer.Log.Redaction
import TokenIssuer.Log.Render
import TokenIssuer.Main
import TokenIssuer.Metrics.Exposition
import TokenIssuer.Metrics.Registry
import TokenIssuer.Net.Address
import TokenIssuer.Net.Authority
import TokenIssuer.Number.Double
import TokenIssuer.Number.Read
import TokenIssuer.Number.Show
import TokenIssuer.Proofs.Audit
import TokenIssuer.Proofs.Authentication
import TokenIssuer.Proofs.Authentication.Corruption
import TokenIssuer.Proofs.Authentication.Rotation
import TokenIssuer.Proofs.Demo
import TokenIssuer.Proofs.Digest
import TokenIssuer.Proofs.Encoding.Base64
import TokenIssuer.Proofs.Encoding.Percent
import TokenIssuer.Proofs.Exposition
import TokenIssuer.Proofs.Exposition.Reader
import TokenIssuer.Proofs.Exposition.Recovery
import TokenIssuer.Proofs.Grant
import TokenIssuer.Proofs.Grant.Precedence
import TokenIssuer.Proofs.Hex
import TokenIssuer.Proofs.Http.Answers
import TokenIssuer.Proofs.Http.Contract
import TokenIssuer.Proofs.Http.Correlation
import TokenIssuer.Proofs.Http.Credentials
import TokenIssuer.Proofs.Http.Failure
import TokenIssuer.Proofs.Http.Form
import TokenIssuer.Proofs.Http.Form.Encoding
import TokenIssuer.Proofs.Http.Headers
import TokenIssuer.Proofs.Http.Lossless
import TokenIssuer.Proofs.Http.Presentation
import TokenIssuer.Proofs.Http.Resemblance
import TokenIssuer.Proofs.Http.Route
import TokenIssuer.Proofs.Json
import TokenIssuer.Proofs.Metrics
import TokenIssuer.Proofs.Number
import TokenIssuer.Proofs.Result
import TokenIssuer.Proofs.Scope
import TokenIssuer.Proofs.Scope.Judgement
import TokenIssuer.Proofs.Secret
import TokenIssuer.Proofs.Secret.Corruption
import TokenIssuer.Proofs.Secret.StoredHash
import TokenIssuer.Proofs.Service.Atomicity
import TokenIssuer.Proofs.Service.AuditEvents
import TokenIssuer.Proofs.Service.AuditTrail
import TokenIssuer.Proofs.Service.Cardinality
import TokenIssuer.Proofs.Service.Challenge
import TokenIssuer.Proofs.Service.Contract
import TokenIssuer.Proofs.Service.Correlation
import TokenIssuer.Proofs.Service.Disclosure
import TokenIssuer.Proofs.Service.Enumeration
import TokenIssuer.Proofs.Service.Hardening
import TokenIssuer.Proofs.Service.History
import TokenIssuer.Proofs.Service.Introspection
import TokenIssuer.Proofs.Service.Isolation
import TokenIssuer.Proofs.Service.Issuance
import TokenIssuer.Proofs.Service.Logging
import TokenIssuer.Proofs.Service.Operation
import TokenIssuer.Proofs.Service.Oracle
import TokenIssuer.Proofs.Service.Outage
import TokenIssuer.Proofs.Service.Outcomes
import TokenIssuer.Proofs.Service.Pipeline
import TokenIssuer.Proofs.Service.Presentation
import TokenIssuer.Proofs.Service.Provisioning
import TokenIssuer.Proofs.Service.Recognition
import TokenIssuer.Proofs.Service.Refusal
import TokenIssuer.Proofs.Service.Retention
import TokenIssuer.Proofs.Service.Run
import TokenIssuer.Proofs.Service.Secrecy
import TokenIssuer.Proofs.Service.Stages
import TokenIssuer.Proofs.Service.TokenCounts
import TokenIssuer.Proofs.Service.Traffic
import TokenIssuer.Proofs.Service.Unavailability
import TokenIssuer.Proofs.Settings
import TokenIssuer.Proofs.Store
import TokenIssuer.Proofs.Text
import TokenIssuer.Proofs.Text.Case
import TokenIssuer.Proofs.Text.Listing
import TokenIssuer.Proofs.Text.Order
import TokenIssuer.Proofs.Utf8
import TokenIssuer.Proofs.Utf8.Canonical
import TokenIssuer.Proofs.Uuid
import TokenIssuer.Scope
import TokenIssuer.Secret.Hasher
import TokenIssuer.Secret.StoredHash
import TokenIssuer.Service.Application
import TokenIssuer.Service.Endpoints
import TokenIssuer.Service.Recognition
import TokenIssuer.Settings.EnvironmentFile
import TokenIssuer.Settings.Options
import TokenIssuer.Settings.Problem
import TokenIssuer.Settings.Schema
import TokenIssuer.Settings.Sources
import TokenIssuer.Settings.Value
import TokenIssuer.Store.Outage
import TokenIssuer.Store.Records
import TokenIssuer.Store.Table
import TokenIssuer.Text.Case
import TokenIssuer.Text.Cased
import TokenIssuer.Text.Cut
import TokenIssuer.Text.Digit
import TokenIssuer.Text.Fold
import TokenIssuer.Text.Order
import TokenIssuer.Text.Phrase
import TokenIssuer.Text.Printable
import TokenIssuer.Text.Quoted
import TokenIssuer.Text.Utf8
import TokenIssuer.Uuid
import TokenIssuer.Proofs.Scope.Format
import TokenIssuer.Proofs.Service.GrantedScopes
import TokenIssuer.Proofs.Service.Records
import TokenIssuer.Proofs.Log.Redaction
import TokenIssuer.Proofs.Service.Redaction
import TokenIssuer.Proofs.Coverage
import TokenIssuer.Proofs.Http.Scheme
import TokenIssuer.Proofs.Audit.Exposure
import TokenIssuer.Proofs.Service.Realm
import TokenIssuer.Proofs.Net.Address.Parts
import TokenIssuer.Proofs.Net.Address.Spelling
import TokenIssuer.Proofs.Net.Address.Canonical
import TokenIssuer.Proofs.Service.Sender
