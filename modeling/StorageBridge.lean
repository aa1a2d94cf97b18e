import StorageBridge.Board.Bench
import StorageBridge.Controller.Passes
import StorageBridge.Proofs.Frames
import StorageBridge.Proofs.Ledger
import StorageBridge.Proofs.Simulation
import StorageBridge.Proofs.InFlight
import StorageBridge.Proofs.Counts
import StorageBridge.Proofs.Logs
import StorageBridge.Proofs.Drained
import StorageBridge.Proofs.Memory
import StorageBridge.Proofs.Effects
import StorageBridge.Proofs.Footprints
import StorageBridge.Proofs.Latch
import StorageBridge.Proofs.Verdicts
import StorageBridge.Proofs.Refusals
import StorageBridge.Proofs.Boards
import StorageBridge.Proofs.QueueMirror
import StorageBridge.Proofs.TransferMirror
import StorageBridge.Proofs.Bursts
import StorageBridge.Proofs.RetryChannel
import StorageBridge.Proofs.Waits
import StorageBridge.Proofs.Stalls
import StorageBridge.Proofs.EndpointDrain
import StorageBridge.Proofs.EndpointTrace
import StorageBridge.Proofs.Passes
import StorageBridge.Proofs.Escalation
import StorageBridge.Proofs.Watches
import StorageBridge.Proofs.TransferTrace
import StorageBridge.Proofs.TransferAddress
import StorageBridge.Proofs.EngineMirror
import StorageBridge.Proofs.Counterparts
import StorageBridge.Proofs.Replays
import StorageBridge.Proofs.DecisionLaw
import StorageBridge.Proofs.Statistics
import StorageBridge.Proofs.CalmBoards
import StorageBridge.Proofs.Retries
import StorageBridge.Proofs.CompletionLaw
import StorageBridge.Proofs.CompletionOrder
import StorageBridge.Proofs.BoardReplays
import StorageBridge.Proofs.TransferLaw
import StorageBridge.Proofs.Acceptance
import StorageBridge.Proofs.WriteOrder
import StorageBridge.Proofs.AcceptedAction
import StorageBridge.Proofs.BoardEvents
import StorageBridge.Proofs.Journal
import StorageBridge.Proofs.OneToClear
import StorageBridge.Proofs.ReadyScripts
import StorageBridge.Proofs.Warnings
import StorageBridge.Proofs.Headroom
import StorageBridge.Proofs.Polling
import StorageBridge.Proofs.ScriptTable
