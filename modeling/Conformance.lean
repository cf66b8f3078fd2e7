import Conformance.Grant.Exchange
import Conformance.Http.Client
import Conformance.Proofs.Consent.Acquisition
import Conformance.Proofs.Consent.ArrivalOrder
import Conformance.Proofs.Consent.Capacity
import Conformance.Proofs.Consent.Course
import Conformance.Proofs.Consent.Dispatch
import Conformance.Proofs.Consent.Freshness
import Conformance.Proofs.Consent.Inputs
import Conformance.Proofs.Consent.Interleaving
import Conformance.Proofs.Consent.Permissions
import Conformance.Proofs.Consent.Provenance
import Conformance.Proofs.Consent.Rehearsal
import Conformance.Proofs.Consent.Steps
import Conformance.Proofs.Consent.Turns
import Conformance.Proofs.Consent.Waiting
import Conformance.Proofs.Context
import Conformance.Proofs.Documents
import Conformance.Proofs.Except
import Conformance.Proofs.Expansion
import Conformance.Proofs.Expansion.Copies
import Conformance.Proofs.Extraction
import Conformance.Proofs.Failures
import Conformance.Proofs.Json.Canonical
import Conformance.Proofs.Json.Float
import Conformance.Proofs.Json.Length
import Conformance.Proofs.Json.Numeral
import Conformance.Proofs.Json.Path
import Conformance.Proofs.Json.Places
import Conformance.Proofs.Json.Reading
import Conformance.Proofs.Json.Rereading
import Conformance.Proofs.Json.Text
import Conformance.Proofs.KeyMap
import Conformance.Proofs.Redaction.Forms
import Conformance.Proofs.Redaction.Queries
import Conformance.Proofs.Redaction.Secrecy
import Conformance.Proofs.Redaction.Values
import Conformance.Proofs.Rehearsal
import Conformance.Proofs.Reporting
import Conformance.Proofs.Request.Again
import Conformance.Proofs.Request.Agreement
import Conformance.Proofs.Request.ConsentUrl
import Conformance.Proofs.Request.Expanded
import Conformance.Proofs.Request.FormBody
import Conformance.Proofs.Request.Headers
import Conformance.Proofs.Request.Prepare
import Conformance.Proofs.Request.Reads
import Conformance.Proofs.Request.RequestObject
import Conformance.Proofs.Run.Course
import Conformance.Proofs.Run.Frame
import Conformance.Proofs.Run.Turns
import Conformance.Proofs.Runner.Exclusion
import Conformance.Proofs.Runner.Turns
import Conformance.Proofs.Schema.Routes
import Conformance.Proofs.Settings
import Conformance.Proofs.Template
import Conformance.Proofs.Template.Demands
import Conformance.Proofs.Template.Layers
import Conformance.Proofs.Template.Modes
import Conformance.Proofs.Template.Scan
import Conformance.Proofs.Template.Tokens
import Conformance.Proofs.Text.Base64
import Conformance.Proofs.Text.Decimal
import Conformance.Proofs.Text.Lowercase
import Conformance.Proofs.Text.Percent
import Conformance.Proofs.Text.Split
import Conformance.Proofs.Text.Utf8
import Conformance.Proofs.Token.Assignment
import Conformance.Proofs.Token.Authorization
import Conformance.Proofs.Token.Calls
import Conformance.Proofs.Token.Distinctness
import Conformance.Proofs.Token.FirstFit
import Conformance.Proofs.Token.Fixpoint
import Conformance.Proofs.Token.Grouping
import Conformance.Proofs.Token.Naming
import Conformance.Proofs.Token.OpenGroup
import Conformance.Proofs.Token.Payments
import Conformance.Proofs.Token.Requests
import Conformance.Proofs.Url.Address
import Conformance.Proofs.Url.Authority
import Conformance.Proofs.Url.Form
import Conformance.Proofs.Url.Front
import Conformance.Proofs.Url.Host
import Conformance.Proofs.Url.Query
import Conformance.Proofs.Url.Rendering
import Conformance.Proofs.Validation
import Conformance.Proofs.Verdict
import Conformance.Proofs.Walk
import Conformance.Proofs.Walk.Course
import Conformance.Proofs.Walk.Executes
import Conformance.Rehearsal
import Conformance.Settings.Material
import Conformance.Template.Scan
import Conformance.Token.Plan
