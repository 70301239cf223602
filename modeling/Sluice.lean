import Sluice.Version
import Sluice.Wire.State
import Sluice.Wire.Ticket
import Sluice.Wire.Config
import Sluice.World
import Sluice.Http.Route
import Sluice.Machine.Step
import Sluice.Script.Run
import Sluice.Pool.Script
import Sluice.Pool.Accesses
import Sluice.Main
import Sluice.Proofs.Coordinator
import Sluice.Proofs.Gate
import Sluice.Proofs.World
import Sluice.Proofs.Change
import Sluice.Proofs.Sound
import Sluice.Proofs.Tended
import Sluice.Proofs.Attempt
import Sluice.Proofs.Suspend
import Sluice.Proofs.Waiting
import Sluice.Proofs.Objects
import Sluice.Proofs.Conservation
import Sluice.Proofs.Books
import Sluice.Proofs.Accounts
import Sluice.Proofs.Returns
import Sluice.Proofs.Callbacks
import Sluice.Proofs.Ledger
import Sluice.Proofs.Delivery
import Sluice.Proofs.Following
import Sluice.Proofs.Firing
import Sluice.Proofs.Open
import Sluice.Proofs.Performs
import Sluice.Proofs.Undone
import Sluice.Proofs.Generation
import Sluice.Proofs.Journal
import Sluice.Proofs.Panics
import Sluice.Proofs.ReturnOrder
import Sluice.Proofs.Answers
import Sluice.Proofs.Serving
import Sluice.Proofs.Traffic
import Sluice.Proofs.Drained
import Sluice.Proofs.Stack
import Sluice.Proofs.Services
import Sluice.Proofs.Drain
import Sluice.Proofs.Timeout
import Sluice.Proofs.Entered
import Sluice.Proofs.Agreement
import Sluice.Proofs.Avoidance
import Sluice.Proofs.Lockstep
import Sluice.Proofs.Paired
import Sluice.Proofs.Unregistered
import Sluice.Proofs.Capacity
import Sluice.Proofs.Patience
import Sluice.Proofs.Gets
import Sluice.Proofs.Handlers
import Sluice.Proofs.Places
import Sluice.Proofs.InFlight
import Sluice.Proofs.Admission
import Sluice.Proofs.Fruitless
import Sluice.Proofs.Idle
import Sluice.Proofs.Readers
import Sluice.Proofs.Settings
import Sluice.Proofs.Spelled
import Sluice.Proofs.Records
import Sluice.Proofs.RoundTrip
import Sluice.Proofs.Grammar
import Sluice.Proofs.Presentation
import Sluice.Proofs.Shutdown
import Sluice.Proofs.Commands
import Sluice.Proofs.Monitor
import Sluice.Proofs.Turns
import Sluice.Proofs.Stranded
import Sluice.Proofs.Stale
