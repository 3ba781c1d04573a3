import ProfilingOperator.Attachment
import ProfilingOperator.Client.Calls
import ProfilingOperator.Client.Exchange
import ProfilingOperator.Client.Install
import ProfilingOperator.Client.Recorder
import ProfilingOperator.Cluster.Basic
import ProfilingOperator.Cluster.Session
import ProfilingOperator.CommandLine.Invocation
import ProfilingOperator.CommandLine.Level
import ProfilingOperator.Condition
import ProfilingOperator.Conflict
import ProfilingOperator.Decimal.Nearest
import ProfilingOperator.Decimal.Shortest
import ProfilingOperator.Decode
import ProfilingOperator.Definition
import ProfilingOperator.Duration.Basic
import ProfilingOperator.Duration.Parser
import ProfilingOperator.Environment
import ProfilingOperator.Event
import ProfilingOperator.Failure
import ProfilingOperator.Http.Form
import ProfilingOperator.Http.Message
import ProfilingOperator.Http.Script
import ProfilingOperator.Http.Uri
import ProfilingOperator.Job.Basic
import ProfilingOperator.Job.Codec
import ProfilingOperator.Json.Basic
import ProfilingOperator.Json.Block
import ProfilingOperator.Json.Fault
import ProfilingOperator.Json.Parser
import ProfilingOperator.Json.Printer
import ProfilingOperator.Kubeconfig.Basic
import ProfilingOperator.Kubeconfig.Connection
import ProfilingOperator.Lifecycle
import ProfilingOperator.Log.Filter
import ProfilingOperator.Log.Format
import ProfilingOperator.Log.Record
import ProfilingOperator.Main
import ProfilingOperator.Metadata
import ProfilingOperator.Pass.Basic
import ProfilingOperator.Pass.Job
import ProfilingOperator.Pass.Targets
import ProfilingOperator.Pass.Tool
import ProfilingOperator.Pod.Basic
import ProfilingOperator.Pod.Container
import ProfilingOperator.Progress
import ProfilingOperator.Proofs.Claims
import ProfilingOperator.Proofs.Course
import ProfilingOperator.Proofs.Exclusion
import ProfilingOperator.Proofs.Finished
import ProfilingOperator.Proofs.Gate
import ProfilingOperator.Proofs.Log
import ProfilingOperator.Proofs.Planning
import ProfilingOperator.Proofs.Replicas
import ProfilingOperator.Proofs.Serving
import ProfilingOperator.Registry
import ProfilingOperator.Requeue
import ProfilingOperator.Resources
import ProfilingOperator.Security
import ProfilingOperator.Selector.Basic
import ProfilingOperator.Selector.Compiled
import ProfilingOperator.Settings
import ProfilingOperator.Stamp.Basic
import ProfilingOperator.Stamp.Text
import ProfilingOperator.Startup
import ProfilingOperator.StringMap
import ProfilingOperator.Telemetry
import ProfilingOperator.Text.Blank
import ProfilingOperator.Text.Bytes
import ProfilingOperator.Text.Quoted
import ProfilingOperator.Text.Shown
import ProfilingOperator.Token
import ProfilingOperator.Tool.Basic
import ProfilingOperator.Tool.Validation
import ProfilingOperator.Proofs.Contest
import ProfilingOperator.Proofs.Ending
import ProfilingOperator.Proofs.Balance
import ProfilingOperator.Proofs.Managing
import ProfilingOperator.Proofs.Coherence
import ProfilingOperator.Proofs.Failing
import ProfilingOperator.Proofs.Repeating
import ProfilingOperator.Proofs.Retrying
import ProfilingOperator.Proofs.Versions
import ProfilingOperator.Proofs.Tokens
import ProfilingOperator.Proofs.Words
import ProfilingOperator.Proofs.Grammar
import ProfilingOperator.Proofs.History
import ProfilingOperator.Proofs.Fractions
import ProfilingOperator.Proofs.Selection
import ProfilingOperator.Proofs.Queries
import ProfilingOperator.Proofs.Rendering
import ProfilingOperator.Proofs.Documents
import ProfilingOperator.Proofs.First
import ProfilingOperator.Proofs.Detection
import ProfilingOperator.Proofs.Recording
import ProfilingOperator.Proofs.DefaultMode
import ProfilingOperator.Proofs.Variables
import ProfilingOperator.Proofs.Privileges
import ProfilingOperator.Proofs.Labels
import ProfilingOperator.Proofs.Searching
import ProfilingOperator.Proofs.Merging
import ProfilingOperator.Proofs.Validating
import ProfilingOperator.Proofs.Overlaying
import ProfilingOperator.Proofs.Naming
import ProfilingOperator.Proofs.Outputs
