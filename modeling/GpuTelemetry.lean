import GpuTelemetry.Calendar
import GpuTelemetry.CommandLine.Run
import GpuTelemetry.Engine
import GpuTelemetry.Environment
import GpuTelemetry.Failure
import GpuTelemetry.Limits
import GpuTelemetry.Main
import GpuTelemetry.Monitor.Caller
import GpuTelemetry.Monitor.Progress
import GpuTelemetry.Monitor.Query
import GpuTelemetry.Number.Places
import GpuTelemetry.Proofs.ActiveEngine
import GpuTelemetry.Proofs.Agreement
import GpuTelemetry.Proofs.Arguments
import GpuTelemetry.Proofs.Attribution
import GpuTelemetry.Proofs.Borrowing
import GpuTelemetry.Proofs.Buffers
import GpuTelemetry.Proofs.Callers
import GpuTelemetry.Proofs.Cancellation
import GpuTelemetry.Proofs.ConditionSets
import GpuTelemetry.Proofs.Connections
import GpuTelemetry.Proofs.Counts
import GpuTelemetry.Proofs.Departures
import GpuTelemetry.Proofs.Effects
import GpuTelemetry.Proofs.EngineCalls
import GpuTelemetry.Proofs.Evolution
import GpuTelemetry.Proofs.FailedCalls
import GpuTelemetry.Proofs.FailedSubscribe
import GpuTelemetry.Proofs.FanOut
import GpuTelemetry.Proofs.FirstFit
import GpuTelemetry.Proofs.Frames
import GpuTelemetry.Proofs.Holding
import GpuTelemetry.Proofs.Journal
import GpuTelemetry.Proofs.JsonLines
import GpuTelemetry.Proofs.JsonText
import GpuTelemetry.Proofs.LatestValues
import GpuTelemetry.Proofs.Lending
import GpuTelemetry.Proofs.LibrarySearch
import GpuTelemetry.Proofs.Lifecycle
import GpuTelemetry.Proofs.LiveBytes
import GpuTelemetry.Proofs.LiveRegistrations
import GpuTelemetry.Proofs.LossyText
import GpuTelemetry.Proofs.MaskLists
import GpuTelemetry.Proofs.Masks
import GpuTelemetry.Proofs.NativeHandles
import GpuTelemetry.Proofs.Opening
import GpuTelemetry.Proofs.Passage
import GpuTelemetry.Proofs.Payloads
import GpuTelemetry.Proofs.PolicyContents
import GpuTelemetry.Proofs.PrintedGrid
import GpuTelemetry.Proofs.Quiescence
import GpuTelemetry.Proofs.ReferenceCounts
import GpuTelemetry.Proofs.References
import GpuTelemetry.Proofs.Refusals
import GpuTelemetry.Proofs.Releases
import GpuTelemetry.Proofs.Requests
import GpuTelemetry.Proofs.Runs
import GpuTelemetry.Proofs.Saturation
import GpuTelemetry.Proofs.Snapshots
import GpuTelemetry.Proofs.Spellings
import GpuTelemetry.Proofs.Stages
import GpuTelemetry.Proofs.Staging
import GpuTelemetry.Proofs.StagingGrowth
import GpuTelemetry.Proofs.StaleRegistrations
import GpuTelemetry.Proofs.Steps
import GpuTelemetry.Proofs.StringPayloads
import GpuTelemetry.Proofs.Tables
import GpuTelemetry.Proofs.Termination
import GpuTelemetry.Proofs.Threads
import GpuTelemetry.Proofs.Tokens
import GpuTelemetry.Proofs.Utf8
import GpuTelemetry.Proofs.Withdrawals
import GpuTelemetry.Reserve
import GpuTelemetry.Sample
import GpuTelemetry.Simulator
import GpuTelemetry.Snapshot
import GpuTelemetry.Text.Blank
import GpuTelemetry.Text.Utf8
import GpuTelemetry.Violation
