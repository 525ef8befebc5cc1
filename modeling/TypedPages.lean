import TypedPages.Log.Journal
import TypedPages.Main
import TypedPages.Proofs.Delivery
import TypedPages.Proofs.Lifecycle
import TypedPages.Transaction
import TypedPages.Workbench
import TypedPages.Proofs.Ledger
import TypedPages.Proofs.Buffering
import TypedPages.Proofs.Indifference
import TypedPages.Proofs.Opening
import TypedPages.Proofs.Task
import TypedPages.Proofs.Registration
import TypedPages.Proofs.Typing
import TypedPages.Proofs.Chain
import TypedPages.Proofs.Leases
import TypedPages.Proofs.Custody
import TypedPages.Proofs.Ending
import TypedPages.Proofs.Origin
import TypedPages.Proofs.Isolation
import TypedPages.Proofs.Blanks
import TypedPages.Proofs.Complement
import TypedPages.Proofs.Serving
import TypedPages.Proofs.Spec
import TypedPages.Proofs.Recovery
import TypedPages.Proofs.Retention
import TypedPages.Proofs.Walk
import TypedPages.Proofs.Closed
import TypedPages.Proofs.Inertia
import TypedPages.Proofs.Copying
import TypedPages.Proofs.Totals
import TypedPages.Proofs.Construction
import TypedPages.Proofs.Grammar
import TypedPages.Proofs.Settling
import TypedPages.Proofs.Drafting
import TypedPages.Proofs.Keys
import TypedPages.Proofs.Acceptance
import TypedPages.Proofs.Verdict
import TypedPages.Proofs.Events
import TypedPages.Proofs.Ownership
