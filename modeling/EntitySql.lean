import EntitySql.Calendar.Date
import EntitySql.Calendar.Reading
import EntitySql.Calendar.Text
import EntitySql.Calendar.Timestamp
import EntitySql.Entity.Basic
import EntitySql.Entity.Declaration
import EntitySql.Entity.Descriptor
import EntitySql.Entity.Structure
import EntitySql.Error
import EntitySql.Execution.Binding
import EntitySql.Execution.Config
import EntitySql.Execution.Executor
import EntitySql.Execution.Memory
import EntitySql.Execution.Provider
import EntitySql.Expr.Basic
import EntitySql.Expr.Operator
import EntitySql.Expr.Path
import EntitySql.Json.Basic
import EntitySql.Json.Document
import EntitySql.Json.Printing
import EntitySql.Json.Reading
import EntitySql.Json.Token
import EntitySql.Literal
import EntitySql.Numeric.Double
import EntitySql.Numeric.FloatFormat
import EntitySql.Numeric.IntegerType
import EntitySql.Numeric.Layout
import EntitySql.Numeric.Reading
import EntitySql.Numeric.Shortest
import EntitySql.Postgres.Connection
import EntitySql.Postgres.Placeholder
import EntitySql.Postgres.Row
import EntitySql.Postgres.Script
import EntitySql.Postgres.Server
import EntitySql.Postgres.Wire
import EntitySql.Proofs.Calendar.DayNumber
import EntitySql.Proofs.Calendar.Reading
import EntitySql.Proofs.Condition.Clause
import EntitySql.Proofs.Condition.Comparison
import EntitySql.Proofs.Condition.FirstOccurrences
import EntitySql.Proofs.Condition.Offence
import EntitySql.Proofs.Condition.Plain
import EntitySql.Proofs.Condition.ReadBack
import EntitySql.Proofs.Connection.Life
import EntitySql.Proofs.Entity.Declared
import EntitySql.Proofs.Entity.Expansion
import EntitySql.Proofs.Entity.Mapping
import EntitySql.Proofs.Entity.RoundTrip
import EntitySql.Proofs.Execution.Answer
import EntitySql.Proofs.Execution.Binding
import EntitySql.Proofs.Execution.Failure
import EntitySql.Proofs.Execution.Logged
import EntitySql.Proofs.Execution.Operation
import EntitySql.Proofs.Execution.Resolution
import EntitySql.Proofs.Execution.Scope
import EntitySql.Proofs.Execution.Trace
import EntitySql.Proofs.Expr.Capturing
import EntitySql.Proofs.Expr.Chain
import EntitySql.Proofs.Expr.Dotted
import EntitySql.Proofs.Literal
import EntitySql.Proofs.Numeric.Exact
import EntitySql.Proofs.Placeholder.Cut
import EntitySql.Proofs.Placeholder.Default
import EntitySql.Proofs.Placeholder.Fragment
import EntitySql.Proofs.Placeholder.Numbering
import EntitySql.Proofs.Placeholder.Renumbering
import EntitySql.Proofs.Placeholder.Select
import EntitySql.Proofs.Placeholder.Sent
import EntitySql.Proofs.Placeholder.Slots
import EntitySql.Proofs.Placeholder.Write
import EntitySql.Proofs.Query.Bindings
import EntitySql.Proofs.Query.Parts
import EntitySql.Proofs.Query.Projection
import EntitySql.Proofs.Query.Steps
import EntitySql.Proofs.Query.Write
import EntitySql.Proofs.Result
import EntitySql.Proofs.Row.Lookup
import EntitySql.Proofs.Row.Mapping
import EntitySql.Proofs.Source.Word
import EntitySql.Proofs.Text.Numeral
import EntitySql.Proofs.Text.Token
import EntitySql.Proofs.Text.Trim
import EntitySql.Proofs.Traversal
import EntitySql.Proofs.Uuid
import EntitySql.Proofs.Value.Integer
import EntitySql.Proofs.Value.Literal
import EntitySql.Proofs.Value.Padding
import EntitySql.Proofs.Value.RoundTrip
import EntitySql.Proofs.Value.Text
import EntitySql.Proofs.Wire.Bytes
import EntitySql.Proofs.Wire.Parameter
import EntitySql.Query.Condition
import EntitySql.Query.Join
import EntitySql.Query.Projection
import EntitySql.Query.Select
import EntitySql.Query.Statement
import EntitySql.Query.Write
import EntitySql.Row.Basic
import EntitySql.Row.Mapping
import EntitySql.Sorted
import EntitySql.Source.Expression
import EntitySql.Source.Grammar
import EntitySql.Source.Lexeme
import EntitySql.Source.Literal
import EntitySql.Source.Path
import EntitySql.Source.Pattern
import EntitySql.Source.Reader
import EntitySql.Source.Token
import EntitySql.Source.TypeExpression
import EntitySql.Text.Blank
import EntitySql.Text.CodeRange
import EntitySql.Text.Decimal
import EntitySql.Text.Identifier
import EntitySql.Text.Printable
import EntitySql.Text.Quoted
import EntitySql.Text.Truncated
import EntitySql.Text.Word
import EntitySql.Uuid
import EntitySql.Value.Basic
import EntitySql.Value.Conversion
import EntitySql.Value.FieldType
