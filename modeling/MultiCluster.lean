import MultiCluster.Allocation.Allocator
import MultiCluster.Allocation.BlockSize
import MultiCluster.Allocation.Decide
import MultiCluster.Allocation.Request
import MultiCluster.Api.Call
import MultiCluster.Api.Clients
import MultiCluster.Api.Ledger
import MultiCluster.Api.Status
import MultiCluster.Api.Wire
import MultiCluster.ClusterId
import MultiCluster.Discovery.CommandLine
import MultiCluster.Discovery.Discover
import MultiCluster.Discovery.Generic
import MultiCluster.Discovery.Introspection
import MultiCluster.Discovery.Network
import MultiCluster.Discovery.Probe
import MultiCluster.Failure
import MultiCluster.Join.Attempt
import MultiCluster.Join.Credential
import MultiCluster.Join.Registration
import MultiCluster.Join.Request
import MultiCluster.Join.Requirements
import MultiCluster.Json.Basic
import MultiCluster.Json.Canonical
import MultiCluster.Json.Decode
import MultiCluster.Json.Number
import MultiCluster.Json.Reader
import MultiCluster.Json.Writer
import MultiCluster.Ledger.Codec
import MultiCluster.Ledger.Memory
import MultiCluster.Ledger.Record
import MultiCluster.Ledger.Store
import MultiCluster.Net.Cidr
import MultiCluster.Net.Network
import MultiCluster.Net.Number
import MultiCluster.Object.Bytes
import MultiCluster.Object.ConfigMap
import MultiCluster.Object.Fields
import MultiCluster.Object.Metadata
import MultiCluster.Object.Node
import MultiCluster.Object.Ownership
import MultiCluster.Object.Pod
import MultiCluster.Object.Secret
import MultiCluster.Operator.Definition
import MultiCluster.Operator.Event
import MultiCluster.Operator.Gateway
import MultiCluster.Operator.Membership
import MultiCluster.Operator.Reconcile
import MultiCluster.Program
import MultiCluster.Proofs.Allocation.CommitLog
import MultiCluster.Proofs.Allocation.CommitPool
import MultiCluster.Proofs.Allocation.FirstFit
import MultiCluster.Proofs.Allocation.Machine
import MultiCluster.Proofs.Allocation.Pinned
import MultiCluster.Proofs.Allocation.Safety
import MultiCluster.Proofs.Allocation.Scan
import MultiCluster.Proofs.Allocation.Serial
import MultiCluster.Proofs.Allocation.Vacancy
import MultiCluster.Proofs.Concurrency.Pool
import MultiCluster.Proofs.Concurrency.Trace
import MultiCluster.Proofs.Json.RoundTrip
import MultiCluster.Proofs.Ledger.Contents
import MultiCluster.Proofs.Ledger.Soundness
import MultiCluster.Proofs.Ledger.StoredForm
import MultiCluster.Proofs.Net.Overlap
import MultiCluster.Proofs.Net.Text
import MultiCluster.Proofs.Text.Trim
import MultiCluster.Replay.Cluster
import MultiCluster.Replay.Join
import MultiCluster.Replay.Ledger
import MultiCluster.Replay.Script
import MultiCluster.Replay.Server
import MultiCluster.Text.Base64
import MultiCluster.Text.Blank
import MultiCluster.Text.Decimal
import MultiCluster.Text.Map
import MultiCluster.Text.Printable
import MultiCluster.Text.Quoted
import MultiCluster.Text.Search
import MultiCluster.Text.Shortest
import MultiCluster.Timing.Calendar
import MultiCluster.Timing.Duration
import MultiCluster.Timing.Instant
import MultiCluster.Timing.Retry
import MultiCluster.Proofs.Allocation.Contention
import MultiCluster.Proofs.Api.Client
import MultiCluster.Proofs.Api.Server
import MultiCluster.Proofs.Api.Preservation
import MultiCluster.Proofs.Api.Shelf
import MultiCluster.Proofs.Api.Agreement
import MultiCluster.Proofs.Allocation.Capacity
import MultiCluster.Proofs.Concurrency.Sequence
import MultiCluster.Proofs.Concurrency.Termination
import MultiCluster.Proofs.Join.Course
import MultiCluster.Proofs.Concurrency.Embedding
import MultiCluster.Proofs.Join.Gate
import MultiCluster.Proofs.Join.Outcome
import MultiCluster.Proofs.Allocation.Settled
import MultiCluster.Proofs.Join.Shared
import MultiCluster.Proofs.Join.Resume
import MultiCluster.Proofs.Allocation.Attempts
import MultiCluster.Proofs.Allocation.Settings
import MultiCluster.Proofs.Operator.Course
import MultiCluster.Proofs.Operator.Termination
import MultiCluster.Proofs.Operator.Events
import MultiCluster.Proofs.Operator.Permits
import MultiCluster.Proofs.Ledger.Validation
import MultiCluster.Proofs.Text.Numeral
import MultiCluster.Proofs.Allocation.Claim
import MultiCluster.Proofs.Discovery.Priority
import MultiCluster.Proofs.Json.Fields
import MultiCluster.Proofs.Ledger.Format
import MultiCluster.Proofs.Discovery.Fallback
import MultiCluster.Proofs.Discovery.Ranges
import MultiCluster.Proofs.Join.Overrides
import MultiCluster.Proofs.Allocation.Satisfiable
import MultiCluster.Proofs.Join.Doomed
import MultiCluster.Proofs.Text.Words
import MultiCluster.Proofs.Discovery.Flags
import MultiCluster.Proofs.Discovery.Containers
import MultiCluster.Proofs.Concurrency.Polling
import MultiCluster.Proofs.Join.Payload
import MultiCluster.Proofs.Join.Polls
import MultiCluster.Proofs.Join.Secrets
import MultiCluster.Proofs.Operator.Phase
import MultiCluster.Proofs.Operator.Labeling
import MultiCluster.Proofs.Operator.SpecForm
import MultiCluster.Proofs.Join.Identity
import MultiCluster.Proofs.Allocation.Nesting
import MultiCluster.Proofs.Text.Search
import MultiCluster.Proofs.Discovery.Rejection
import MultiCluster.Proofs.Join.Versions
import MultiCluster.Proofs.Allocation.Sizing
import MultiCluster.Proofs.Ledger.Bookkeeping
import MultiCluster.Proofs.Concurrency.Retrying
