import Bourse.Column
import Bourse.Forms
import Bourse.JsonReader
import Bourse.Proofs.Acceptance
import Bourse.Proofs.Adjustments
import Bourse.Proofs.Announcements
import Bourse.Proofs.Authority
import Bourse.Proofs.Causes
import Bourse.Proofs.Columns
import Bourse.Proofs.Commits
import Bourse.Proofs.Conservation
import Bourse.Proofs.Crossing
import Bourse.Proofs.Custody
import Bourse.Proofs.Failures
import Bourse.Proofs.Fills
import Bourse.Proofs.Floor
import Bourse.Proofs.Flows
import Bourse.Proofs.Funding
import Bourse.Proofs.Greedy
import Bourse.Proofs.Growth
import Bourse.Proofs.Handling
import Bourse.Proofs.History
import Bourse.Proofs.Holders
import Bourse.Proofs.Instants
import Bourse.Proofs.Interchange
import Bourse.Proofs.Interleaving
import Bourse.Proofs.Interruption
import Bourse.Proofs.Journal
import Bourse.Proofs.Legs
import Bourse.Proofs.Limits
import Bourse.Proofs.Listing
import Bourse.Proofs.Matched
import Bourse.Proofs.Movements
import Bourse.Proofs.Names
import Bourse.Proofs.Notation
import Bourse.Proofs.Numbering
import Bourse.Proofs.Numerals
import Bourse.Proofs.OrderRows
import Bourse.Proofs.Paging
import Bourse.Proofs.Parts
import Bourse.Proofs.Placement
import Bourse.Proofs.Ranges
import Bourse.Proofs.Receipts
import Bourse.Proofs.Reconciliation
import Bourse.Proofs.Records
import Bourse.Proofs.Replay
import Bourse.Proofs.Revisions
import Bourse.Proofs.Rounds
import Bourse.Proofs.Runs
import Bourse.Proofs.Serving
import Bourse.Proofs.Settlements
import Bourse.Proofs.Splits
import Bourse.Proofs.Submission
import Bourse.Proofs.Swaps
import Bourse.Proofs.Tables
import Bourse.Proofs.Totals
import Bourse.Proofs.Transfers
import Bourse.Proofs.Turnover
import Bourse.Proofs.Turns
import Bourse.Proofs.Unrelated
import Bourse.Proofs.WellFormed
import Bourse.Proofs.Writes
import Bourse.Session
