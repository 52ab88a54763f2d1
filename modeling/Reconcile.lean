import Reconcile.Backfill
import Reconcile.Backfill.Watch
import Reconcile.Binary64.Shortest
import Reconcile.Calendar.Instant
import Reconcile.Command.Rehearsal
import Reconcile.Config
import Reconcile.Currency
import Reconcile.Database.Address
import Reconcile.Database.Rehearsal
import Reconcile.Database.Schema
import Reconcile.Database.Store
import Reconcile.Decimal.Amount
import Reconcile.Decimal.Numeric
import Reconcile.Decimal.Rounded
import Reconcile.Description
import Reconcile.Digest.Sha384
import Reconcile.Exchange.Legacy
import Reconcile.Exchange.Run
import Reconcile.Invoice.Pointer
import Reconcile.Json.Reader
import Reconcile.Main
import Reconcile.QualityReport
import Reconcile.Settings.Toml.Printer
import Reconcile.Store.Faulty
import Reconcile.Store.Memory
import Reconcile.Transcription
import Reconcile.Unit
import Reconcile.Uuid
import Reconcile.Proofs.Run.Account
import Reconcile.Proofs.Run.Schedule
import Reconcile.Proofs.Candidate.Order
import Reconcile.Proofs.Invoice.Transcribed
import Reconcile.Proofs.Run.Failures
import Reconcile.Proofs.Database.RunLog
import Reconcile.Proofs.Memory.Backlog
import Reconcile.Proofs.Memory.History
import Reconcile.Proofs.Memory.Isolation
import Reconcile.Proofs.Memory.Advance
import Reconcile.Proofs.Dialogue.Interleaving
import Reconcile.Proofs.Memory.Sharing
import Reconcile.Proofs.Memory.Eligibility
import Reconcile.Proofs.Run.Bookkeeping
import Reconcile.Proofs.Text.Words
import Reconcile.Proofs.Database.Changes
import Reconcile.Proofs.Database.Codec
import Reconcile.Proofs.Database.Agreement
import Reconcile.Proofs.Memory.Cancellation
import Reconcile.Proofs.Memory.Scan
import Reconcile.Proofs.Memory.Identity
import Reconcile.Proofs.Memory.Names
import Reconcile.Proofs.Invoice.Sources
import Reconcile.Proofs.Report.Records
import Reconcile.Proofs.Memory.Listing
import Reconcile.Proofs.Memory.Passes
import Reconcile.Proofs.Report.Reasons
import Reconcile.Proofs.Text.Pattern
import Reconcile.Proofs.Unit.Reading
import Reconcile.Proofs.Unit.Packs
import Reconcile.Proofs.Command.Outcome
import Reconcile.Proofs.Unit.Labels
import Reconcile.Proofs.Decimal.Parentheses
import Reconcile.Proofs.Document.Nulls
import Reconcile.Proofs.Decimal.Plain
import Reconcile.Proofs.Invoice.Numbers
import Reconcile.Proofs.Currency.Codes
import Reconcile.Proofs.Document.Content
import Reconcile.Proofs.Invoice.HeaderCurrency
import Reconcile.Proofs.Quality.Lines
import Reconcile.Proofs.Document.Acceptance
import Reconcile.Proofs.Description.NormalForm
import Reconcile.Proofs.Invoice.Provenance
import Reconcile.Proofs.Candidate.Selection
import Reconcile.Proofs.Database.Insertion
import Reconcile.Proofs.Candidate.Selection
import Reconcile.Proofs.Database.Insertion
import Reconcile.Proofs.Database.Pointers
