import SchemaDdl.Text.Blank
import SchemaDdl.Text.Cut
import SchemaDdl.Text.LetterTable
import SchemaDdl.Text.Letter
import SchemaDdl.Text.SnakeCase
import SchemaDdl.Text.Numeral
import SchemaDdl.Json.Value
import SchemaDdl.Json.Reader
import SchemaDdl.Json.Writer
import SchemaDdl.Json.Record
import SchemaDdl.Sql.Dialect
import SchemaDdl.Sql.Action
import SchemaDdl.Sql.Literal
import SchemaDdl.Sql.Serial
import SchemaDdl.Sql.Column
import SchemaDdl.Sql.Constraint
import SchemaDdl.Sql.Table
import SchemaDdl.Sql.Statement
import SchemaDdl.Sql.Failure
import SchemaDdl.Entity.Metadata
import SchemaDdl.Entity.Document
import SchemaDdl.Entity.Embedding
import SchemaDdl.Entity.DesiredSchema
import SchemaDdl.Entity.Statements
import SchemaDdl.Catalog.LiveSchema
import SchemaDdl.Catalog.Document
import SchemaDdl.Ddl.Profile
import SchemaDdl.Ddl.Clause
import SchemaDdl.Ddl.Renderer
import SchemaDdl.Ddl.Draft
import SchemaDdl.Drift.TypeBucket
import SchemaDdl.Drift.InlineEnum
import SchemaDdl.Drift.DefaultForm
import SchemaDdl.Drift.Change
import SchemaDdl.Drift.Comparison
import SchemaDdl.Drift.Summary
import SchemaDdl.Drift.Document
import SchemaDdl.Drift.Migration
import SchemaDdl.Command.Arguments
import SchemaDdl.Command.Run
import SchemaDdl.Command.Directory
import SchemaDdl.Main
import SchemaDdl.Proofs.Lookup
import SchemaDdl.Proofs.Drift.Comparison
import SchemaDdl.Proofs.Drift.InSync
import SchemaDdl.Proofs.Text.Ending
import SchemaDdl.Proofs.Ddl.WellFormed
import SchemaDdl.Proofs.Ddl.Writing
import SchemaDdl.Proofs.Drift.Bootstrap
import SchemaDdl.Proofs.Drift.TypeBucket
import SchemaDdl.Proofs.Drift.ColumnType
import SchemaDdl.Proofs.Entity.PrimaryKey
import SchemaDdl.Proofs.Drift.ChangeList
import SchemaDdl.Proofs.Command.Check
import SchemaDdl.Proofs.Drift.SummaryAndMigration
import SchemaDdl.Proofs.Ddl.DefaultText
import SchemaDdl.Proofs.Drift.ColumnDefault
import SchemaDdl.Proofs.Drift.CommentEntries
import SchemaDdl.Proofs.Drift.CreationOrder
import SchemaDdl.Proofs.Ddl.Reuse
import SchemaDdl.Proofs.Ddl.KeyClauses
import SchemaDdl.Proofs.Drift.Totality
import SchemaDdl.Proofs.Ddl.Redefinition
import SchemaDdl.Proofs.Drift.ColumnEntries
import SchemaDdl.Proofs.Drift.Classification
import SchemaDdl.Proofs.Ddl.SequenceDefault
import SchemaDdl.Proofs.Ddl.ColumnClauses
import SchemaDdl.Proofs.Drift.ColumnFlags
import SchemaDdl.Proofs.Entity.Occurrence
import SchemaDdl.Proofs.Entity.Nesting
import SchemaDdl.Proofs.Text.Lines
import SchemaDdl.Proofs.Ddl.FirstFailure
import SchemaDdl.Proofs.Ddl.EnumPlacement
import SchemaDdl.Proofs.Ddl.SchemaOrder
import SchemaDdl.Proofs.Drift.InlineEnum
import SchemaDdl.Proofs.Drift.CatalogOrder
import SchemaDdl.Proofs.Drift.MysqlFamily
import SchemaDdl.Proofs.Json.Spelling
import SchemaDdl.Proofs.Json.Record
import SchemaDdl.Proofs.Command.Documents
import SchemaDdl.Proofs.Ddl.WrittenType
import SchemaDdl.Proofs.Entity.RelationKeys
import SchemaDdl.Proofs.Text.Identifier
import SchemaDdl.Proofs.Entity.CopiedCheck
import SchemaDdl.Proofs.Drift.EnumValues
import SchemaDdl.Proofs.Drift.IndexNames
import SchemaDdl.Proofs.Drift.LiteralForms
import SchemaDdl.Proofs.Ddl.AddedColumn
import SchemaDdl.Proofs.Text.Part
import SchemaDdl.Proofs.Text.Parentheses
import SchemaDdl.Proofs.Drift.CastSuffix
import SchemaDdl.Proofs.Drift.SerialMention
import SchemaDdl.Proofs.Drift.CanonicalBucket
import SchemaDdl.Proofs.Text.CodeLines
import SchemaDdl.Proofs.Text.Numeral
import SchemaDdl.Proofs.Sql.Quotation
import SchemaDdl.Proofs.Ddl.LiteralDefault
import SchemaDdl.Proofs.Ddl.ClosedDefault
import SchemaDdl.Proofs.Ddl.LabelLine
import SchemaDdl.Proofs.Ddl.CommentLines
import SchemaDdl.Proofs.Sql.Reference
import SchemaDdl.Proofs.Entity.KeyType
import SchemaDdl.Proofs.Ddl.TableLines
import SchemaDdl.Proofs.Entity.FieldOrder
import SchemaDdl.Proofs.History
import SchemaDdl.Proofs.Sql.SingleKey
import SchemaDdl.Proofs.Ddl.TableOptions
import SchemaDdl.Proofs.Ddl.PendingReference
import SchemaDdl.Proofs.Sql.ColumnMarks
