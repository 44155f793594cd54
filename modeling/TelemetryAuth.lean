import TelemetryAuth.CloudExtension
import TelemetryAuth.Credential.KeyFile
import TelemetryAuth.Credential.Provider
import TelemetryAuth.Credential.State
import TelemetryAuth.Credential.Token
import TelemetryAuth.Decimal.Read
import TelemetryAuth.Decimal.Shortest
import TelemetryAuth.Decimal.Text
import TelemetryAuth.Dictionary
import TelemetryAuth.Environment
import TelemetryAuth.Error
import TelemetryAuth.Exporter.Basic
import TelemetryAuth.Exporter.Compression
import TelemetryAuth.Exporter.Install
import TelemetryAuth.Exporter.Selection
import TelemetryAuth.Header.Grammar
import TelemetryAuth.Header.Multimap
import TelemetryAuth.Hook.Grpc
import TelemetryAuth.Hook.Http
import TelemetryAuth.Host
import TelemetryAuth.Instant
import TelemetryAuth.Json.Basic
import TelemetryAuth.Json.Compact
import TelemetryAuth.Json.Number
import TelemetryAuth.Json.Read
import TelemetryAuth.Log.Entry
import TelemetryAuth.Log.Filter
import TelemetryAuth.Log.Settings
import TelemetryAuth.Log.Span
import TelemetryAuth.Pipeline.Build
import TelemetryAuth.Pipeline.Extension
import TelemetryAuth.Pipeline.Global
import TelemetryAuth.Pipeline.Run
import TelemetryAuth.Platform
import TelemetryAuth.PrivateKey.Armor
import TelemetryAuth.PrivateKey.Base64
import TelemetryAuth.PrivateKey.Encoded
import TelemetryAuth.PrivateKey.Rsa
import TelemetryAuth.Proofs.Credential.Access
import TelemetryAuth.Proofs.Credential.Call
import TelemetryAuth.Proofs.Credential.Crash
import TelemetryAuth.Proofs.Credential.Disclosure
import TelemetryAuth.Proofs.Credential.FailedRefresh
import TelemetryAuth.Proofs.Credential.Fallback
import TelemetryAuth.Proofs.Credential.History
import TelemetryAuth.Proofs.Credential.Interleaving
import TelemetryAuth.Proofs.Credential.Reissue
import TelemetryAuth.Proofs.Credential.Renaming
import TelemetryAuth.Proofs.Credential.Session
import TelemetryAuth.Proofs.Credential.SharedRefresh
import TelemetryAuth.Proofs.Credential.Threads
import TelemetryAuth.Proofs.Dictionary
import TelemetryAuth.Proofs.Exporter.Rebuild
import TelemetryAuth.Proofs.Exporter.Selection
import TelemetryAuth.Proofs.Header.Attach
import TelemetryAuth.Proofs.Hook.Agreement
import TelemetryAuth.Proofs.Hook.Status
import TelemetryAuth.Proofs.Instant
import TelemetryAuth.Proofs.Json.RoundTrip
import TelemetryAuth.Proofs.KeyValueMap
import TelemetryAuth.Proofs.Log.Line
import TelemetryAuth.Proofs.Overlay
import TelemetryAuth.Proofs.Pipeline.Assembly
import TelemetryAuth.Proofs.Pipeline.CloudExtension
import TelemetryAuth.Proofs.Pipeline.LastExtension
import TelemetryAuth.Proofs.Pipeline.Schedule
import TelemetryAuth.Proofs.Pipeline.Trace
import TelemetryAuth.Proofs.Pipeline.Visibility
import TelemetryAuth.Proofs.Platform
import TelemetryAuth.Proofs.Resource
import TelemetryAuth.Proofs.Text.Trim
import TelemetryAuth.Proofs.TypedValue
import TelemetryAuth.Proofs.WriteHistory
import TelemetryAuth.Properties
import TelemetryAuth.RequiredOption
import TelemetryAuth.Resource
import TelemetryAuth.Resource.Base
import TelemetryAuth.Sampling
import TelemetryAuth.Text.Alphanumeric
import TelemetryAuth.Text.Blank
import TelemetryAuth.Text.Count
import TelemetryAuth.Text.KeyValueList
import TelemetryAuth.Text.Quoted
import TelemetryAuth.Text.Split
import TelemetryAuth.Text.Visible
import TelemetryAuth.Uri
