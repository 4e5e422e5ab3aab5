import EntitySql.Assoc
import EntitySql.Binding.Basic
import EntitySql.Binding.Record
import EntitySql.Compile.Filter
import EntitySql.Compile.Operation
import EntitySql.Compile.Read
import EntitySql.Compile.ReadPlan
import EntitySql.Compile.Write
import EntitySql.Database.Basic
import EntitySql.Database.Row
import EntitySql.Database.Scripted
import EntitySql.Database.Transaction
import EntitySql.Fault
import EntitySql.Json.Compact
import EntitySql.Json.Decode
import EntitySql.Json.Document
import EntitySql.Json.Reader
import EntitySql.Json.Value
import EntitySql.Migration.Catalog
import EntitySql.Migration.Plan
import EntitySql.Migration.Run
import EntitySql.Naming
import EntitySql.Number.Double
import EntitySql.Number.Shortest
import EntitySql.Request.Filter
import EntitySql.Request.Operation
import EntitySql.Request.Operator
import EntitySql.Request.Read
import EntitySql.Request.Selection
import EntitySql.Request.Sort
import EntitySql.Schema.Basic
import EntitySql.Schema.Entity
import EntitySql.Schema.Field
import EntitySql.Schema.Wire
import EntitySql.Session.Basic
import EntitySql.Session.Shared
import EntitySql.Sql.Alias
import EntitySql.Sql.Definition
import EntitySql.Sql.Keyword
import EntitySql.Sql.Lexeme
import EntitySql.Sql.Query
import EntitySql.Sql.Render
import EntitySql.Sql.Statement
import EntitySql.Sql.Type
import EntitySql.Text.Letter
import EntitySql.Text.LetterTable
import EntitySql.Text.SnakeCase
import EntitySql.Proofs.Relational.Eval
import EntitySql.Proofs.Relational.Scope
import EntitySql.Proofs.Relational.Evaluation
import EntitySql.Proofs.Compile.Run
import EntitySql.Proofs.Result
import EntitySql.Proofs.Schema.WellFormed
import EntitySql.Proofs.Naming.Layout
import EntitySql.Proofs.Migration.Plan
import EntitySql.Proofs.Migration.Reconcile
import EntitySql.Proofs.Migration.ForeignKeys
import EntitySql.Proofs.Migration.Sent
import EntitySql.Proofs.Relational.Rows
import EntitySql.Proofs.Filter.Meaning
import EntitySql.Proofs.Filter.Soundness
import EntitySql.Proofs.Read.Arguments
import EntitySql.Proofs.Read.Meaning
import EntitySql.Proofs.Relational.Documents
import EntitySql.Proofs.Compile.Node
import EntitySql.Proofs.Read.Node
import EntitySql.Proofs.Read.Soundness
import EntitySql.Proofs.Filter.Placeholders
import EntitySql.Proofs.Sql.Sites
import EntitySql.Proofs.Filter.Sites
import EntitySql.Proofs.Read.Placeholders
import EntitySql.Proofs.Binding.Numbering
import EntitySql.Proofs.Binding.Records
import EntitySql.Proofs.Operation.Plan
import EntitySql.Proofs.Operation.Placeholders
import EntitySql.Proofs.Operation.Reading
import EntitySql.Proofs.Read.Sites
import EntitySql.Proofs.Operation.Sites
import EntitySql.Proofs.Binding.Shape
import EntitySql.Proofs.Operation.Text
import EntitySql.Proofs.Sql.Layers
import EntitySql.Proofs.Compile.Labels
import EntitySql.Proofs.Filter.Conditions
import EntitySql.Proofs.Read.Layers
import EntitySql.Proofs.Operation.Correlation
import EntitySql.Proofs.Read.Clashes
import EntitySql.Proofs.Schema.Declared
import EntitySql.Proofs.Naming.Exact
import EntitySql.Proofs.Naming.Spelling
import EntitySql.Proofs.Naming.Separation
import EntitySql.Proofs.Database.Recorded
import EntitySql.Proofs.Database.Guarded
import EntitySql.Proofs.Session.Transaction
import EntitySql.Proofs.Sql.Scan
import EntitySql.Proofs.Sql.Quoted
import EntitySql.Proofs.Sql.Rendering
import EntitySql.Proofs.Naming.Found
import EntitySql.Proofs.Filter.Found
import EntitySql.Proofs.Read.Found
import EntitySql.Proofs.Operation.Found
import EntitySql.Proofs.Sql.Inline
import EntitySql.Proofs.Binding.Operands
import EntitySql.Proofs.Binding.Inline
import EntitySql.Proofs.Compile.Inline
import EntitySql.Proofs.Binding.Arrivals
import EntitySql.Proofs.Relational.Order
import EntitySql.Proofs.Read.Pages
import EntitySql.Proofs.Read.PageNode
import EntitySql.Proofs.Read.Paging
import EntitySql.Proofs.Json.Distinct
import EntitySql.Proofs.Filter.Suits
import EntitySql.Proofs.Filter.Faults
import EntitySql.Proofs.Filter.Parsed
import EntitySql.Proofs.Filter.Nested
import EntitySql.Proofs.Filter.Casts
import EntitySql.Proofs.Filter.Correct
import EntitySql.Proofs.Filter.Printed
import EntitySql.Proofs.Operation.Written
import EntitySql.Proofs.Session.Undeclared
import EntitySql.Proofs.Session.Opening
import EntitySql.Proofs.Read.Checked
import EntitySql.Proofs.Binding.Literals
import EntitySql.Proofs.Binding.Calls
import EntitySql.Proofs.Read.First
import EntitySql.Proofs.Read.Handed
import EntitySql.Proofs.Read.Lifted
import EntitySql.Proofs.Read.Accepted
import EntitySql.Proofs.Read.Unordered
import EntitySql.Proofs.Operation.Batch
import EntitySql.Proofs.Sql.Grammar
import EntitySql.Proofs.Sql.Nesting
import EntitySql.Proofs.Sql.Comparands
import EntitySql.Proofs.Sql.Logic
import EntitySql.Proofs.Read.Flattened
import EntitySql.Proofs.Migration.Regrouped
import EntitySql.Proofs.Schema.RoundTrip
import EntitySql.Proofs.Compile.History
import EntitySql.Proofs.Compile.Numbered
