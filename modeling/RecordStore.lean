import RecordStore.Finder.Lemmas
import RecordStore.Glob.Lemmas
import RecordStore.Number.Lemmas
import RecordStore.Program.Lemmas
import RecordStore.Program.Rendering
import RecordStore.Proofs.Finder.Binding
import RecordStore.Proofs.Finder.Condition
import RecordStore.Proofs.Finder.Cutting
import RecordStore.Proofs.Finder.Limit
import RecordStore.Proofs.Finder.Phrase
import RecordStore.Proofs.Finder.Spelling
import RecordStore.Proofs.Glob.Expression
import RecordStore.Proofs.Glob.Literal
import RecordStore.Proofs.Number.Order
import RecordStore.Proofs.Record.Attribute
import RecordStore.Proofs.Record.Constant
import RecordStore.Proofs.Record.Derivation
import RecordStore.Proofs.Rendering.Canonical
import RecordStore.Proofs.Rendering.Finder
import RecordStore.Proofs.Scan.Account
import RecordStore.Proofs.Scan.Control
import RecordStore.Proofs.Scan.Duality
import RecordStore.Proofs.Scan.Execution
import RecordStore.Proofs.Scan.First
import RecordStore.Proofs.Scan.Mismatch
import RecordStore.Proofs.Scan.Sameness
import RecordStore.Proofs.Scan.Typing
import RecordStore.Proofs.Session.Duality
import RecordStore.Proofs.Session.Membership
import RecordStore.Proofs.Session.NormalForm
import RecordStore.Proofs.Session.Null
import RecordStore.Proofs.Session.Reading
import RecordStore.Proofs.Session.Rewriting
import RecordStore.Proofs.Session.Skipping
import RecordStore.Proofs.Store.Batch
import RecordStore.Proofs.Store.Consistency
import RecordStore.Proofs.Store.Counting
import RecordStore.Proofs.Store.Delivery
import RecordStore.Proofs.Store.Distinct
import RecordStore.Proofs.Store.Single
import RecordStore.Proofs.Store.Timeline
import RecordStore.Proofs.Store.Walk
import RecordStore.Proofs.Value.Interval
import RecordStore.Record.Derivation
import RecordStore.Scan.Lemmas
import RecordStore.Session.Lemmas
import RecordStore.Store.ConfigText
import RecordStore.Store.Interleaving
import RecordStore.Store.Lemmas
