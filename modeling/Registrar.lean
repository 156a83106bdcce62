import Registrar.Client.RemoteSigner
import Registrar.Client.SecondarySigner
import Registrar.Exclusion.Watcher
import Registrar.Http.Service
import Registrar.Main
import Registrar.Proofs.Attempt
import Registrar.Simulation.Scenario
import Registrar.Proofs.Pool
import Registrar.Proofs.Batching
import Registrar.Proofs.Classification
import Registrar.Proofs.Planning
import Registrar.Proofs.Dispatch
import Registrar.Proofs.Call
import Registrar.Proofs.RowSafety
import Registrar.Proofs.Accounting
import Registrar.Proofs.Soundness
import Registrar.Proofs.Consistency
import Registrar.Proofs.Reading
import Registrar.Proofs.Bytes
import Registrar.Proofs.Rlp
import Registrar.Proofs.Abi
import Registrar.Proofs.Holdings
import Registrar.Proofs.Sending
import Registrar.Proofs.Interleaving
import Registrar.Proofs.Repetition
import Registrar.Proofs.Applying
import Registrar.Proofs.Signers
import Registrar.Proofs.Settling
import Registrar.Proofs.SecondRun
import Registrar.Proofs.Ending
import Registrar.Proofs.SettlingNode
import Registrar.Proofs.Fallback
import Registrar.Proofs.Isolation
import Registrar.Proofs.Containment
import Registrar.Proofs.Sequence
import Registrar.Proofs.Course
import Registrar.Proofs.Nonces
import Registrar.Proofs.Actions
import Registrar.Proofs.Payouts
import Registrar.Proofs.Snapshot
import Registrar.Proofs.WireFormat
import Registrar.Proofs.CallData
import Registrar.Proofs.Handover
import Registrar.Proofs.Resigning
import Registrar.Proofs.Versions
import Registrar.Proofs.Starting
import Registrar.Proofs.Pausing
import Registrar.Proofs.Waiting
import Registrar.Proofs.Pricing
import Registrar.Proofs.Limits
import Registrar.Proofs.StatusWords
import Registrar.Proofs.Spelling
import Registrar.Proofs.CountedCalls
import Registrar.Proofs.ListRecords
import Registrar.Proofs.Polling
import Registrar.Proofs.Cutting
import Registrar.Proofs.Redaction
import Registrar.Proofs.Calls
import Registrar.Proofs.Tiling
import Registrar.Proofs.Filters
import Registrar.Proofs.WordChunks
import Registrar.Proofs.Deduplication
import Registrar.Proofs.Phases
