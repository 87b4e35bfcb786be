import NamedSql.Placeholder.Positional
import NamedSql.Value.Convert
import NamedSql.Driver.Rows
import NamedSql.Driver.Lift
import NamedSql.Statement.Query
import NamedSql.Rehearsal.Stage
import NamedSql.Proofs.Ledger.Audit
import NamedSql.Proofs.Placeholder.Markers
import NamedSql.Proofs.Placeholder.Fragments
import NamedSql.Proofs.Placeholder.Restoring
import NamedSql.Proofs.Attempt.Ensures
import NamedSql.Proofs.Ledger.Handle
import NamedSql.Proofs.Ledger.Life
import NamedSql.Proofs.Ledger.Run
import NamedSql.Proofs.MySql.Execution
import NamedSql.Proofs.Statement.Spent
import NamedSql.Proofs.Ledger.Directed
import NamedSql.Proofs.Ledger.Released
import NamedSql.Proofs.MySql.Batches
import NamedSql.Proofs.MySql.Keys
import NamedSql.Proofs.MySql.Loans
import NamedSql.Proofs.Ledger.Nesting
import NamedSql.Proofs.MySql.InMemory
import NamedSql.Proofs.MySql.KeysOrCounts
import NamedSql.Proofs.Transcript.Basic
import NamedSql.Proofs.Transcript.Handle
import NamedSql.Proofs.Transcript.Answers
import NamedSql.Proofs.Transcript.Runs
import NamedSql.Proofs.Transcript.Endings
import NamedSql.Proofs.Transcript.Binding
import NamedSql.Proofs.Transcript.EveryRow
import NamedSql.Proofs.Transcript.Operations
import NamedSql.Proofs.Driver.SameRow
import NamedSql.Proofs.Transcript.FirstRow
import NamedSql.Proofs.Transcript.Limit
import NamedSql.Proofs.Placeholder.Slots
import NamedSql.Proofs.Value.Nulls
import NamedSql.Proofs.Transcript.Scalar
import NamedSql.Proofs.Transcript.FirstKey
import NamedSql.Proofs.Transcript.EveryKey
import NamedSql.Proofs.MySql.RowLimit
import NamedSql.Proofs.Driver.Walking
import NamedSql.Proofs.Text.WholeNumbers
import NamedSql.Proofs.Value.WholeNumbers
import NamedSql.Proofs.MySql.ColumnTypes
import NamedSql.Proofs.MySql.WholeNumbers
import NamedSql.Proofs.Registry.Earliest
