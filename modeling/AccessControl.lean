import AccessControl.Administration
import AccessControl.Attribute
import AccessControl.Authority
import AccessControl.Check
import AccessControl.Condition
import AccessControl.Decimal.Double
import AccessControl.Decimal.Numeral
import AccessControl.Decimal.Shortest
import AccessControl.Decimal.Text
import AccessControl.Dictionary
import AccessControl.Effect
import AccessControl.Entity.Basic
import AccessControl.Entity.Document
import AccessControl.Error
import AccessControl.Expression.Arithmetic
import AccessControl.Expression.Engine
import AccessControl.Expression.Evaluation
import AccessControl.Expression.Failure
import AccessControl.Expression.Function
import AccessControl.Expression.Grammar
import AccessControl.Expression.Literal
import AccessControl.Expression.Making
import AccessControl.Expression.Term
import AccessControl.Expression.Token
import AccessControl.Expression.Value
import AccessControl.Json.Document
import AccessControl.Json.Record
import AccessControl.Json.Source
import AccessControl.Pattern.Basic
import AccessControl.Pattern.Bracket
import AccessControl.Pattern.Escape
import AccessControl.Pattern.Grammar
import AccessControl.Pattern.Reader
import AccessControl.Pattern.Size
import AccessControl.Proofs.Atomicity
import AccessControl.Proofs.Authority
import AccessControl.Proofs.Check.Answer
import AccessControl.Proofs.Check.Grants
import AccessControl.Proofs.Check.Outcome
import AccessControl.Proofs.Check.Search
import AccessControl.Proofs.Condition
import AccessControl.Proofs.Dictionary
import AccessControl.Proofs.Effect
import AccessControl.Proofs.Expression.Engine
import AccessControl.Proofs.ResourceTree
import AccessControl.Proofs.RoleGraph
import AccessControl.Proofs.Tables.Forest
import AccessControl.Proofs.Tables.Inheritance
import AccessControl.Proofs.Tables.Integrity
import AccessControl.Proofs.Tables.Step
import AccessControl.RoleGraph
import AccessControl.Settings
import AccessControl.Sql.Connection
import AccessControl.Sql.Rows
import AccessControl.Sql.Session
import AccessControl.Sql.Tables
import AccessControl.Store
import AccessControl.Tables.Basic
import AccessControl.Tables.Changes
import AccessControl.Text.Blank
import AccessControl.Text.Bytes
import AccessControl.Text.Category
import AccessControl.Text.CharSet
import AccessControl.Text.Emoji
import AccessControl.Text.Letter
import AccessControl.Text.LetterCase
import AccessControl.Text.LetterProperty
import AccessControl.Text.Mark
import AccessControl.Text.NameProperty
import AccessControl.Text.Number
import AccessControl.Text.Property
import AccessControl.Text.Punctuation
import AccessControl.Text.Script
import AccessControl.Text.Separator
import AccessControl.Text.SignProperty
import AccessControl.Text.Symbol
import AccessControl.Text.Version
import AccessControl.Text.WordChar
import AccessControl.Time.Calendar
import AccessControl.Time.Instant
import AccessControl.Time.Rfc3339
import AccessControl.Time.SpanText
import AccessControl.Vocabulary
import AccessControl.Word
import AccessControl.Proofs.Listing
import AccessControl.Proofs.Check.Listing
import AccessControl.Proofs.Decimal.Digits
import AccessControl.Proofs.Json.Number
import AccessControl.Proofs.Json.Reading
import AccessControl.Proofs.Attribute
import AccessControl.Proofs.Condition.Stored
import AccessControl.Proofs.Granting
import AccessControl.Proofs.Alike
import AccessControl.Proofs.Expression.Cache
import AccessControl.Proofs.Caching
import AccessControl.Proofs.Audit.Logger
import AccessControl.Proofs.Audit.Independence
import AccessControl.Proofs.Operation
import AccessControl.Proofs.Audit.History
import AccessControl.Proofs.Check.Grounds
import AccessControl.Proofs.Check.Rights
import AccessControl.Proofs.Condition.Clauses
import AccessControl.Proofs.Issuing
import AccessControl.Proofs.Sql.Rows
import AccessControl.Proofs.Sql.Session
import AccessControl.Proofs.Sql.Decision
import AccessControl.Proofs.Sql.Transcript
import AccessControl.Proofs.Sql.Transaction
import AccessControl.Proofs.Sql.Commit
import AccessControl.Proofs.Sql.Rules
import AccessControl.Proofs.Sql.Faults
import AccessControl.Proofs.Sql.Course
import AccessControl.Proofs.RoleGraph.Nearest
import AccessControl.Proofs.Tables.Hierarchy
import AccessControl.Proofs.Condition.Evaluation
import AccessControl.Proofs.Sql.Moving
import AccessControl.Proofs.Condition.RoundTrip
import AccessControl.Proofs.Attribute.History
import AccessControl.Proofs.Listing.Complete
import AccessControl.Proofs.Tables.Removal
import AccessControl.Proofs.Assignment
import AccessControl.Proofs.Audit.Recent
import AccessControl.Proofs.Condition.Validation
import AccessControl.Proofs.Naming
import AccessControl.Proofs.Tables.Chain
import AccessControl.Proofs.Expression.Facts
import AccessControl.Proofs.Attribute.Text
import AccessControl.Proofs.Decimal.Bits
import AccessControl.Proofs.Decimal.Rounding
