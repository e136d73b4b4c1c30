import ZoneGate.Library.Prog
import ZoneGate.Library.Pool
import ZoneGate.Library.Ownership
import ZoneGate.Library.CheckThenAct
import ZoneGate.Library.KeyedLog
import ZoneGate.Library.Cells
import ZoneGate.Library.PrefixCode
import ZoneGate.Library.Monitor
import ZoneGate.Library.FirstOccurrences
import ZoneGate.Library.Trim
import ZoneGate.Library.Raising
import ZoneGate.Library.Dict
import ZoneGate.Library.Acyclic
import ZoneGate.Library.Retry
import ZoneGate.Py.Str
import ZoneGate.Py.Case
import ZoneGate.Py.Value
import ZoneGate.Py.Datetime
import ZoneGate.Domain.Records
import ZoneGate.Domain.PolicyConfig
import ZoneGate.Storage.Zova
import ZoneGate.Storage.Calls
import ZoneGate.Storage.Keyed
import ZoneGate.Storage.Log
import ZoneGate.Authorization.Roles
import ZoneGate.Authorization.Progress
import ZoneGate.Evidence.PlanValidator
import ZoneGate.Authorization.Effects
import ZoneGate.Evidence.Gateway
import ZoneGate.Policy.Engine
import ZoneGate.Authorization.Token
import ZoneGate.Authorization.Service
import ZoneGate.Authorization.Runs
import ZoneGate.Authorization.Outcome
import ZoneGate.Authorization.Advice
import ZoneGate.Authorization.Atomicity
import ZoneGate.Authorization.Requests
import ZoneGate.Authorization.Ledger
import ZoneGate.Authorization.Provenance
import ZoneGate.Authorization.Scope
import ZoneGate.Authorization.Receipts
import ZoneGate.Authorization.Calls
import ZoneGate.Authorization.Claims
import ZoneGate.Authorization.Resolutions
import ZoneGate.Authorization.Verdicts
import ZoneGate.Library.Trace
import ZoneGate.Py.Bytes
import ZoneGate.Py.Numerals
import ZoneGate.Authorization.Passwords
import ZoneGate.Authorization.PasswordRecords
import ZoneGate.Authorization.Console
import ZoneGate.Authorization.Footprint
import ZoneGate.Api.Actors
import ZoneGate.Api.Enrolment
import ZoneGate.Api.Authorization
import ZoneGate.Api.Pending
import ZoneGate.Api.Requests
import ZoneGate.Api.Roster
import ZoneGate.Authorization.Pipeline
import ZoneGate.Api.Revocation
import ZoneGate.Authorization.Stops
import ZoneGate.Library.Channel
import ZoneGate.Authorization.Events
import ZoneGate.Api.Stream
import ZoneGate.Authorization.Files
import ZoneGate.Api.Contexts
import ZoneGate.Authorization.SpentTokens
import ZoneGate.Authorization.Sessions
import ZoneGate.Py.Json
import ZoneGate.Py.Calendar
import ZoneGate.Authorization.Verification
import ZoneGate.Api.Tokens
import ZoneGate.Authorization.Restricted
import ZoneGate.Authorization.Grounds
import ZoneGate.Authorization.Escalation
import ZoneGate.Authorization.Caveats
import ZoneGate.Authorization.Turns
import ZoneGate.Agent.ContextEvaluator
import ZoneGate.Agent.Ollama
import ZoneGate.Agent.Conversation
import ZoneGate.Authorization.Fallback
import ZoneGate.Evidence.Collected
import ZoneGate.Authorization.RoleNames
import ZoneGate.Authorization.Settlement
import ZoneGate.Api.Bindings
import ZoneGate.Api.ConsoleAccess
import ZoneGate.Api.Policy
import ZoneGate.Integrations.NokiaLive
import ZoneGate.Agent.Gemini.Walk
import ZoneGate.Agent.Gemini.Weight
import ZoneGate.Agent.Gemini.Accepted
import ZoneGate.Agent.Gemini.Fields
import ZoneGate.Library.Indexes
import ZoneGate.Storage.Consistent
import ZoneGate.App.Settings
import ZoneGate.Api.Auth
import ZoneGate.Api.Listings
import ZoneGate.Api.Endpoints
import ZoneGate.Api.Gate
import ZoneGate.Authorization.Attested
import ZoneGate.Api.Filing
import ZoneGate.Api.References
import ZoneGate.Api.Accounts
import ZoneGate.App.Startup
import ZoneGate.App.Staffing
import ZoneGate.Integrations.Camara
import ZoneGate.Api.Approvals
import ZoneGate.Api.Earned
import ZoneGate.Library.Silence
import ZoneGate.Agent.Tools
import ZoneGate.Agent.Planning
import ZoneGate.Authorization.Unheard
import ZoneGate.Api.Outage
import ZoneGate.Api.Answers
import ZoneGate.Library.Registers
import ZoneGate.App.PolicyUpdates
import ZoneGate.Py.JsonText
import ZoneGate.Py.Timestamp
import ZoneGate.Domain.DecimalText
import ZoneGate.Library.Codec
import ZoneGate.Py.Model
import ZoneGate.Library.Encoding
import ZoneGate.Storage.Documents
import ZoneGate.Storage.Texts
import ZoneGate.Library.Refinement
import ZoneGate.Api.OnTexts
