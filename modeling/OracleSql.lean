import OracleSql.Index
import OracleSql.Main
import OracleSql.Migration.Migrate
import OracleSql.Session.Script
import OracleSql.Session.Statement
import OracleSql.View
import OracleSql.Proofs.Query.Shape
import OracleSql.Proofs.Sql.Alike
import OracleSql.Proofs.Literal.Runs
import OracleSql.Proofs.Literal.Alike
import OracleSql.Proofs.Query.Alike
import OracleSql.Proofs.Query.Clause
import OracleSql.Proofs.Query.Select
import OracleSql.Proofs.Query.Injection
import OracleSql.Proofs.Literal.Document
import OracleSql.Proofs.Migration.Ledger
import OracleSql.Proofs.Migration.Repeat
import OracleSql.Proofs.Sql.Part
import OracleSql.Proofs.Database.Statement
import OracleSql.Proofs.Database.Table
import OracleSql.Proofs.Schema.BaseType
import OracleSql.Proofs.Schema.Convergence
import OracleSql.Proofs.Session.Transaction
import OracleSql.Proofs.Session.Transcript
import OracleSql.Proofs.Migration.Insertion
import OracleSql.Proofs.Migration.Spelling
import OracleSql.Proofs.Schema.Resumption
import OracleSql.Proofs.Migration.Service
import OracleSql.Proofs.Migration.Retry
import OracleSql.Proofs.Migration.Memory
import OracleSql.Proofs.Session.Nesting
import OracleSql.Proofs.Schema.Names
import OracleSql.Proofs.Query.Paging
import OracleSql.Proofs.Query.Connective
import OracleSql.Proofs.Session.Notice
import OracleSql.Proofs.Session.Interleaving
import OracleSql.Proofs.Session.Sharing
import OracleSql.Proofs.Session.Joining
import OracleSql.Proofs.Database.Catalog
import OracleSql.Proofs.Database.Sequence
import OracleSql.Proofs.Database.Shared
import OracleSql.Proofs.Database.Ownership
import OracleSql.Proofs.Database.Identity
import OracleSql.Proofs.Literal.Complete
import OracleSql.Proofs.Query.Splicing
import OracleSql.Proofs.Query.Star
import OracleSql.Proofs.Database.Separation
import OracleSql.Proofs.Literal.Placeholder
import OracleSql.Proofs.Literal.Folding
import OracleSql.Proofs.Query.PageColumns
import OracleSql.Proofs.Query.Aggregation
import OracleSql.Proofs.Migration.Precedence
import OracleSql.Proofs.Database.Restart
import OracleSql.Proofs.Schema.Definition
import OracleSql.Proofs.Database.Rivals
import OracleSql.Proofs.Database.Indexing
import OracleSql.Proofs.Query.Condition
import OracleSql.Proofs.Session.Documents
import OracleSql.Proofs.Literal.Timestamp
import OracleSql.Proofs.Session.Replacement
import OracleSql.Proofs.Database.Naming
import OracleSql.Proofs.Query.NullTest
import OracleSql.Proofs.Migration.Document
