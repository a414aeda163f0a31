import SwapWarden.Agent.PodWatch
import SwapWarden.Agent.Startup
import SwapWarden.Ceiling.Allocation
import SwapWarden.Ceiling.Directory
import SwapWarden.Ceiling.Policy
import SwapWarden.Ceiling.Reconcile
import SwapWarden.Clock
import SwapWarden.Cluster.Call
import SwapWarden.Cluster.Client
import SwapWarden.Cluster.PodCache
import SwapWarden.Cluster.Reply
import SwapWarden.ContainerRuntime.Client
import SwapWarden.ContainerRuntime.Message
import SwapWarden.ContainerRuntime.Pid
import SwapWarden.ContainerRuntime.State
import SwapWarden.ContainerRuntime.Wire
import SwapWarden.Duration
import SwapWarden.Eviction.Candidates
import SwapWarden.Eviction.Cycle
import SwapWarden.Eviction.Evict
import SwapWarden.Eviction.Order
import SwapWarden.Fault
import SwapWarden.FileTree.Basic
import SwapWarden.FileTree.Document
import SwapWarden.Memory.Document
import SwapWarden.Memory.History
import SwapWarden.Memory.Meminfo
import SwapWarden.Memory.Stats
import SwapWarden.Memory.Vmstat
import SwapWarden.Node.Basic
import SwapWarden.Node.EvictionTaint
import SwapWarden.Node.Manifest
import SwapWarden.Node.Shape
import SwapWarden.Pod.Basic
import SwapWarden.Pod.CgroupPath
import SwapWarden.Pod.Exclusion
import SwapWarden.Pod.Key
import SwapWarden.Pod.Manifest
import SwapWarden.Pod.MemoryRequest
import SwapWarden.Pod.Qos
import SwapWarden.Pod.Quantity
import SwapWarden.Pod.Shape
import SwapWarden.Program
import SwapWarden.Report.Document
import SwapWarden.Report.Endpoint
import SwapWarden.Report.Events
import SwapWarden.Report.Health
import SwapWarden.Report.Journal
import SwapWarden.Report.Metrics
import SwapWarden.Settings.Basic
import SwapWarden.Settings.Environment
import SwapWarden.Settings.Path
import SwapWarden.Settings.Validation
import SwapWarden.Settings.Value
import SwapWarden.Shortage.Baseline
import SwapWarden.Shortage.Verdict
import SwapWarden.Simulation.Agenda
import SwapWarden.Simulation.Agent
import SwapWarden.Simulation.Ceilings
import SwapWarden.Simulation.Cluster
import SwapWarden.Simulation.Eviction
import SwapWarden.Simulation.Sampling
import SwapWarden.Table
import SwapWarden.Text.Blank
import SwapWarden.Text.Decimal
import SwapWarden.Text.FormEncoded
import SwapWarden.Text.Hex
import SwapWarden.Text.Json.Access
import SwapWarden.Text.Json.Basic
import SwapWarden.Text.Json.Fields
import SwapWarden.Text.Json.Number
import SwapWarden.Text.Json.Plain
import SwapWarden.Text.Json.Reader
import SwapWarden.Text.Json.Record
import SwapWarden.Text.Json.Shape
import SwapWarden.Text.Json.Writer
import SwapWarden.Text.Numeral
import SwapWarden.Text.Printable
import SwapWarden.Text.Quoted
import SwapWarden.Text.Shortest
import SwapWarden.Text.Timestamp
import SwapWarden.Usage.Basic
import SwapWarden.Usage.Cgroup
import SwapWarden.Usage.Document
import SwapWarden.Usage.Source
import SwapWarden.Word64
import SwapWarden.WorkQueue.Backoff
import SwapWarden.WorkQueue.Basic
import SwapWarden.WorkQueue.Timed
import SwapWarden.Proofs.WorkQueue.Interleaving
import SwapWarden.Proofs.WorkQueue.Exclusivity
import SwapWarden.Proofs.WorkQueue.Delivery
import SwapWarden.Proofs.Conversation
import SwapWarden.Proofs.Eviction.Order
import SwapWarden.Proofs.Eviction.Safety
import SwapWarden.Proofs.Eviction.Loop
import SwapWarden.Proofs.Shortage.Baseline
import SwapWarden.Proofs.Eviction.Cooldown
import SwapWarden.Proofs.Eviction.Simulated
import SwapWarden.Proofs.Eviction.Ranking
import SwapWarden.Proofs.Eviction.Tainting
import SwapWarden.Proofs.Eviction.Talk
import SwapWarden.Proofs.Eviction.Reporting
import SwapWarden.Proofs.WorkQueue.Crew
import SwapWarden.Proofs.WorkQueue.Delay
import SwapWarden.Proofs.WorkQueue.Retry
import SwapWarden.Proofs.Ceiling.Reconcile
import SwapWarden.Proofs.WorkQueue.Calls
import SwapWarden.Proofs.WorkQueue.Deadlines
import SwapWarden.Proofs.WorkQueue.Shutdown
import SwapWarden.Proofs.WorkQueue.Wakeup
import SwapWarden.Proofs.Text.Calendar
import SwapWarden.Proofs.Text.Timestamp
import SwapWarden.Proofs.Node.Manifest
import SwapWarden.Proofs.Cluster.ServedNode
import SwapWarden.Proofs.Eviction.SharedNode
import SwapWarden.Proofs.Ceiling.Allocation
import SwapWarden.Proofs.Usage.Measured
import SwapWarden.Proofs.Eviction.OverLimit
import SwapWarden.Proofs.Agent.PodWatch
import SwapWarden.Proofs.Agent.Lost
import SwapWarden.Proofs.Settings.Intervals
import SwapWarden.Proofs.Settings.Given
import SwapWarden.Proofs.Settings.Texts
import SwapWarden.Proofs.Settings.Prefixes
import SwapWarden.Proofs.WorkQueue.Retries
import SwapWarden.Proofs.Pod.Quantity
import SwapWarden.Proofs.Ceiling.Confinement
import SwapWarden.Proofs.Cluster.Eviction
import SwapWarden.Proofs.Pod.Qos
import SwapWarden.Proofs.Pod.MemoryRequest
import SwapWarden.Proofs.Pod.CgroupPath
import SwapWarden.Proofs.Memory.History
import SwapWarden.Proofs.Report.Agreement
import SwapWarden.Proofs.ContainerRuntime.Undeclared
import SwapWarden.Proofs.Memory.Listing
