import Gatehouse.About
import Gatehouse.Bench
import Gatehouse.Form
import Gatehouse.Rehearsal
import Gatehouse.Proofs.Course
import Gatehouse.Proofs.Desk
import Gatehouse.Proofs.Deed
import Gatehouse.Proofs.Calls
import Gatehouse.Proofs.Judging
import Gatehouse.Proofs.Walking
import Gatehouse.Proofs.Operations
import Gatehouse.Proofs.Turns
import Gatehouse.Proofs.Running
import Gatehouse.Proofs.Mediation
import Gatehouse.Proofs.Entrance
import Gatehouse.Proofs.Ending
import Gatehouse.Proofs.Snapshot
import Gatehouse.Proofs.Memory
import Gatehouse.Proofs.Mirror
import Gatehouse.Proofs.Stranger
import Gatehouse.Proofs.Expiry
import Gatehouse.Proofs.Waiting
import Gatehouse.Proofs.Lookups
import Gatehouse.Proofs.Redirects
import Gatehouse.Proofs.Alone
import Gatehouse.Proofs.Sequence
import Gatehouse.Proofs.Answers
import Gatehouse.Proofs.Completion
import Gatehouse.Proofs.Steps
import Gatehouse.Proofs.Whereabouts
import Gatehouse.Proofs.Twins
import Gatehouse.Proofs.Secrecy
import Gatehouse.Proofs.Scanned
import Gatehouse.Proofs.Reread
import Gatehouse.Proofs.Located
import Gatehouse.Proofs.Kept
import Gatehouse.Proofs.Refinement
import Gatehouse.Proofs.Slots
import Gatehouse.Proofs.Issued
import Gatehouse.Proofs.Trails
import Gatehouse.Proofs.Bounds
import Gatehouse.Proofs.Clauses
import Gatehouse.Proofs.Leaving
import Gatehouse.Proofs.Undisturbed
import Gatehouse.Proofs.Admission
import Gatehouse.Proofs.Landing
import Gatehouse.Proofs.Rounded
import Gatehouse.Proofs.Nearest
import Gatehouse.Proofs.Shortened
import Gatehouse.Proofs.Numbers
import Gatehouse.Proofs.Returned
import Gatehouse.Proofs.Written
import Gatehouse.Proofs.Framed
import Gatehouse.Proofs.OwnerOnly
import Gatehouse.Proofs.Restored
import Gatehouse.Proofs.Values
import Gatehouse.Proofs.Spelled
import Gatehouse.Proofs.Rechecked
import Gatehouse.Proofs.Recognised
import Gatehouse.Proofs.Matched
import Gatehouse.Proofs.Filled
import Gatehouse.Proofs.Connected
import Gatehouse.Proofs.Addressed
