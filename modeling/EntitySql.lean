import EntitySql.Dialect.Registry
import EntitySql.Entity.Catalog
import EntitySql.Entity.Definition
import EntitySql.Form.Filling
import EntitySql.Form.Records
import EntitySql.Predicate.Combination
import EntitySql.Rehearsal.Play
import EntitySql.Rehearsal.Solo
import EntitySql.Samples
import EntitySql.Value.Dictionary
import EntitySql.Value.Notation
import EntitySql.Proofs.Session.Connection
import EntitySql.Proofs.Session.Counter
import EntitySql.Proofs.Session.Course
import EntitySql.Proofs.Session.Rollback
import EntitySql.Proofs.Session.Stale
import EntitySql.Proofs.Session.Disposal
import EntitySql.Proofs.Session.Custody
import EntitySql.Proofs.Session.Attendance
import EntitySql.Proofs.Dialect.Identifier
import EntitySql.Proofs.Entity.Row
import EntitySql.Proofs.Sql.Condition
import EntitySql.Proofs.Sql.Reading
import EntitySql.Proofs.Sql.Parser
import EntitySql.Proofs.Predicate.Meaning
import EntitySql.Proofs.Predicate.Rendering
import EntitySql.Proofs.Sql.Placeholder
import EntitySql.Proofs.Query.Placeholder
import EntitySql.Proofs.Statement.Insert
import EntitySql.Proofs.Statement.Delete
import EntitySql.Proofs.Statement.Reference
import EntitySql.Proofs.Statement.Withheld
import EntitySql.Proofs.Batch.Region
import EntitySql.Proofs.Statement.ReadBack
import EntitySql.Proofs.Batch.Statement
import EntitySql.Proofs.Statement.Interpolation
import EntitySql.Proofs.Driver.Agreement
import EntitySql.Proofs.Query.Source
import EntitySql.Proofs.Statement.Portability
import EntitySql.Proofs.Statement.Override
import EntitySql.Proofs.Entity.ReadBack
import EntitySql.Proofs.Driver.Holding
import EntitySql.Proofs.Driver.Isolation
import EntitySql.Proofs.Entity.Catalog
import EntitySql.Proofs.Entity.Resolution
import EntitySql.Proofs.Statement.Keys
import EntitySql.Proofs.Predicate.Spelling
import EntitySql.Proofs.Predicate.Acceptance
import EntitySql.Proofs.Predicate.Membership
import EntitySql.Proofs.Statement.KeyConditions
import EntitySql.Proofs.Query.Filters
import EntitySql.Proofs.Dialect.Qualified
import EntitySql.Proofs.Dialect.FunctionCall
import EntitySql.Proofs.Session.Beginning
import EntitySql.Proofs.Session.FailedCommit
import EntitySql.Proofs.Session.Reentry
import EntitySql.Proofs.Query.RowType
import EntitySql.Proofs.Query.Window
import EntitySql.Proofs.Dialect.Label
import EntitySql.Proofs.Dialect.IdentityValue
import EntitySql.Proofs.Dialect.Requoting
import EntitySql.Proofs.Dialect.FunctionName
import EntitySql.Proofs.Parameters.Additions
import EntitySql.Proofs.Batch.Stability
import EntitySql.Proofs.Text.SnakeCase
