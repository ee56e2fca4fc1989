import BedrockGateway.Api.AdminRoutes
import BedrockGateway.Api.AdminTrace
import BedrockGateway.Api.CallBudget
import BedrockGateway.Api.ChatEvidence
import BedrockGateway.Api.ChatGates
import BedrockGateway.Api.ChatTrace
import BedrockGateway.Api.Confinement
import BedrockGateway.Api.FailsClosed
import BedrockGateway.Api.Footprints
import BedrockGateway.Api.Handling
import BedrockGateway.Api.KillSwitch
import BedrockGateway.Api.Revocation
import BedrockGateway.Api.Routes
import BedrockGateway.Api.Schemas
import BedrockGateway.Api.Serving
import BedrockGateway.Api.StateChanges
import BedrockGateway.Api.Stretches
import BedrockGateway.Auth.IamTenants
import BedrockGateway.Auth.Identity
import BedrockGateway.Auth.Jwks
import BedrockGateway.Auth.JwksBudget
import BedrockGateway.Auth.JwksFailures
import BedrockGateway.Auth.JwksRuns
import BedrockGateway.Cache.CheckedOutput
import BedrockGateway.Cache.Keys
import BedrockGateway.Cache.Origin
import BedrockGateway.Cache.Provenance
import BedrockGateway.Cache.Recency
import BedrockGateway.Cache.Store
import BedrockGateway.Environment
import BedrockGateway.EventLoop
import BedrockGateway.Foundation.Cost
import BedrockGateway.Foundation.Counting
import BedrockGateway.Foundation.Dict
import BedrockGateway.Foundation.Driver
import BedrockGateway.Foundation.Framing
import BedrockGateway.Foundation.History
import BedrockGateway.Foundation.Json
import BedrockGateway.Foundation.JsonReader
import BedrockGateway.Foundation.Lockstep
import BedrockGateway.Foundation.Pattern
import BedrockGateway.Foundation.Program
import BedrockGateway.Foundation.Recency
import BedrockGateway.Foundation.Reservoir
import BedrockGateway.Foundation.Safety
import BedrockGateway.Foundation.Scheduler
import BedrockGateway.Foundation.Sequential
import BedrockGateway.Foundation.Substitution
import BedrockGateway.Guardrails.Basic
import BedrockGateway.Guardrails.FailClosed
import BedrockGateway.Guardrails.JoinedText
import BedrockGateway.Inference.Bedrock
import BedrockGateway.Inference.BedrockClient
import BedrockGateway.Inference.BedrockStream
import BedrockGateway.Inference.RetryLoop
import BedrockGateway.Pipeline
import BedrockGateway.Policy.Admission
import BedrockGateway.Policy.Cache
import BedrockGateway.Policy.Coherence
import BedrockGateway.Policy.Epochs
import BedrockGateway.Policy.LimitOrder
import BedrockGateway.Policy.LimiterRaces
import BedrockGateway.Policy.Models
import BedrockGateway.Policy.Refreshes
import BedrockGateway.Policy.SnapshotRaces
import BedrockGateway.Policy.Tables
import BedrockGateway.Policy.TokenBucket
import BedrockGateway.Routing.BreakerHistory
import BedrockGateway.Routing.BreakerLog
import BedrockGateway.Routing.BreakerRaces
import BedrockGateway.Routing.CircuitBreaker
import BedrockGateway.Routing.FirstSuccess
import BedrockGateway.Routing.NoisyNeighbour
import BedrockGateway.Routing.RetryStorm
import BedrockGateway.Streaming
import BedrockGateway.Streaming.Accounting
import BedrockGateway.Streaming.Composition
import BedrockGateway.Streaming.EndToEnd
import BedrockGateway.Streaming.Erasure
import BedrockGateway.Streaming.Framing
import BedrockGateway.Telemetry.Alike
import BedrockGateway.Telemetry.Correlation
import BedrockGateway.Telemetry.DebugCapture
import BedrockGateway.Telemetry.LogFormat
import BedrockGateway.Telemetry.Masked
import BedrockGateway.Telemetry.Middleware
import BedrockGateway.Telemetry.Mirrors
import BedrockGateway.Telemetry.Noninterference
import BedrockGateway.Telemetry.OptIn
import BedrockGateway.Telemetry.Records
import BedrockGateway.Telemetry.Redaction
