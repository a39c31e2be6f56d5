import Passbook.Json.Ledger
import Passbook.Scenario
import Passbook.Proofs.Database.Connections
import Passbook.Proofs.Database.Transactions
import Passbook.Proofs.Database.Locks
import Passbook.Proofs.System.Moves
import Passbook.Proofs.System.Ownership
import Passbook.Proofs.System.Runs
import Passbook.Proofs.System.Frames
import Passbook.Proofs.UnitOfWork.Program
import Passbook.Proofs.UnitOfWork.Course
import Passbook.Proofs.UnitOfWork.Leftovers
import Passbook.Proofs.UnitOfWork.Atomicity
import Passbook.Proofs.UnitOfWork.Bodies
import Passbook.Proofs.UnitOfWork.Commit
import Passbook.Proofs.Database.Views
import Passbook.Proofs.Serial.Guarded
import Passbook.Proofs.Serial.Alone
import Passbook.Proofs.Serial.Fits
import Passbook.Proofs.Serial.Standing
import Passbook.Proofs.Serial.Serializability
import Passbook.Proofs.Database.Generated
import Passbook.Proofs.Serial.Determined
import Passbook.Proofs.Deadlock.Climbs
import Passbook.Proofs.Deadlock.Faultless
import Passbook.Proofs.Deadlock.Ascent
import Passbook.Proofs.Deadlock.Pace
import Passbook.Proofs.Deadlock.Freedom
import Passbook.Proofs.Store.StandAlone
import Passbook.Proofs.Transfer.Retries
import Passbook.Proofs.Ledger.Reconciliation
import Passbook.Proofs.Ledger.Listing
import Passbook.Proofs.Race.Spending
import Passbook.Proofs.Constraints.Defence
import Passbook.Proofs.Transfer.Outcome
import Passbook.Proofs.Transfer.Harmless
import Passbook.Proofs.Operation.Refinement
import Passbook.Proofs.Operation.Threaded
import Passbook.Proofs.Transfer.Algebra
import Passbook.Proofs.System.Waiting
import Passbook.Proofs.Ledger.Revisions
import Passbook.Proofs.Store.Distinct
import Passbook.Proofs.Locality.Transfers
import Passbook.Proofs.Money.Obtained
import Passbook.Proofs.UnitOfWork.LockBound
import Passbook.Proofs.Settings
import Passbook.Proofs.Transfer.Discretion
import Passbook.Proofs.Json.AnyOrder
