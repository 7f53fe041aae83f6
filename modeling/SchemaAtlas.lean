import SchemaAtlas.AdHoc.Query
import SchemaAtlas.AdHoc.Template
import SchemaAtlas.AdHoc.View
import SchemaAtlas.Adapter.Basic
import SchemaAtlas.Adapter.CockroachDb
import SchemaAtlas.Adapter.CockroachDb.Queries
import SchemaAtlas.Adapter.MySql
import SchemaAtlas.Adapter.MySql.Queries
import SchemaAtlas.Adapter.Oracle
import SchemaAtlas.Adapter.Oracle.Queries
import SchemaAtlas.Adapter.PostgreSql
import SchemaAtlas.Adapter.PostgreSql.Queries
import SchemaAtlas.Adapter.Sqlite
import SchemaAtlas.Adapter.Sqlite.Queries
import SchemaAtlas.Build.Builder
import SchemaAtlas.Build.ForeignKeys
import SchemaAtlas.Build.Indexes
import SchemaAtlas.Build.Load
import SchemaAtlas.Build.Options
import SchemaAtlas.Build.Phase
import SchemaAtlas.Catalog.Labels
import SchemaAtlas.Catalog.Record
import SchemaAtlas.Catalog.Row
import SchemaAtlas.Configuration
import SchemaAtlas.Decimal.Read
import SchemaAtlas.Decimal.Shortest
import SchemaAtlas.Engine
import SchemaAtlas.Error
import SchemaAtlas.Exchange.Connection
import SchemaAtlas.Exchange.Recorded
import SchemaAtlas.Exchange.Session
import SchemaAtlas.Graph
import SchemaAtlas.Identifier
import SchemaAtlas.Inflection.Number
import SchemaAtlas.Inflection.Rules
import SchemaAtlas.Initialisms
import SchemaAtlas.Mode
import SchemaAtlas.NameMap
import SchemaAtlas.Pattern
import SchemaAtlas.Pattern.Reading
import SchemaAtlas.Proofs.AdHoc.InlineParameters
import SchemaAtlas.Proofs.AdHoc.Passes
import SchemaAtlas.Proofs.AdHoc.StatementLines
import SchemaAtlas.Proofs.AdHoc.TableAgreement
import SchemaAtlas.Proofs.AdHoc.ViewLifetime
import SchemaAtlas.Proofs.Adapter.Annotations
import SchemaAtlas.Proofs.Adapter.Capabilities
import SchemaAtlas.Proofs.Adapter.Inquiries
import SchemaAtlas.Proofs.Adapter.QuotedIdentifiers
import SchemaAtlas.Proofs.Adapter.Records
import SchemaAtlas.Proofs.Adapter.RepeatedStripping
import SchemaAtlas.Proofs.Adapter.Rows
import SchemaAtlas.Proofs.Adapter.Stripping
import SchemaAtlas.Proofs.Bindings
import SchemaAtlas.Proofs.Build.AccessorNames
import SchemaAtlas.Proofs.Build.AlikeBuilds
import SchemaAtlas.Proofs.Build.CapabilityOverrides
import SchemaAtlas.Proofs.Build.CatalogReading
import SchemaAtlas.Proofs.Build.CockroachAsPostgres
import SchemaAtlas.Proofs.Build.Composition
import SchemaAtlas.Proofs.Build.Course
import SchemaAtlas.Proofs.Build.CrossReference
import SchemaAtlas.Proofs.Build.EnumerationTypes
import SchemaAtlas.Proofs.Build.FailFast
import SchemaAtlas.Proofs.Build.ForeignKeyMap
import SchemaAtlas.Proofs.Build.Ignoring
import SchemaAtlas.Proofs.Build.IndexKeys
import SchemaAtlas.Proofs.Build.IndexOrder
import SchemaAtlas.Proofs.Build.ListingOrder
import SchemaAtlas.Proofs.Build.OptionalProbes
import SchemaAtlas.Proofs.Build.PartRequests
import SchemaAtlas.Proofs.Build.PhaseMachine
import SchemaAtlas.Proofs.Build.Places
import SchemaAtlas.Proofs.Build.PrimaryKeyIndexes
import SchemaAtlas.Proofs.Build.Relations
import SchemaAtlas.Proofs.Build.Resolution
import SchemaAtlas.Proofs.Build.TwoBuilds
import SchemaAtlas.Proofs.Build.ViewMerge
import SchemaAtlas.Proofs.Catalog.LabelRoundTrip
import SchemaAtlas.Proofs.Configuration.Checks
import SchemaAtlas.Proofs.Configuration.Loading
import SchemaAtlas.Proofs.Exchange.Asking
import SchemaAtlas.Proofs.Exchange.Comparing
import SchemaAtlas.Proofs.Exchange.Composing
import SchemaAtlas.Proofs.Exchange.Correspondence
import SchemaAtlas.Proofs.Exchange.Faults
import SchemaAtlas.Proofs.Exchange.Heeding
import SchemaAtlas.Proofs.Exchange.Reordering
import SchemaAtlas.Proofs.Exchange.Returning
import SchemaAtlas.Proofs.Exchange.Sessions
import SchemaAtlas.Proofs.Exchange.Supporting
import SchemaAtlas.Proofs.Exchange.Yielding
import SchemaAtlas.Proofs.Naming.CanonicalIdentifiers
import SchemaAtlas.Proofs.Naming.ConstantNames
import SchemaAtlas.Proofs.Naming.FirstWord
import SchemaAtlas.Proofs.Naming.LowerCamel
import SchemaAtlas.Proofs.Naming.NameWords
import SchemaAtlas.Proofs.Naming.Peeking
import SchemaAtlas.Proofs.Naming.Registering
import SchemaAtlas.Proofs.Naming.RoundTrip
import SchemaAtlas.Proofs.Naming.SnakeForms
import SchemaAtlas.Proofs.Naming.SnakeNames
import SchemaAtlas.Proofs.Naming.Symbols
import SchemaAtlas.Proofs.Pattern.Leftmost
import SchemaAtlas.Proofs.Pattern.Matching
import SchemaAtlas.Proofs.Text.Ascii
import SchemaAtlas.Proofs.Text.Bytes
import SchemaAtlas.Proofs.Text.CaseFolding
import SchemaAtlas.Proofs.Text.Cutting
import SchemaAtlas.Proofs.Text.Keywords
import SchemaAtlas.Proofs.Text.Lines
import SchemaAtlas.Proofs.Text.Lowercasing
import SchemaAtlas.Proofs.Text.Numerals
import SchemaAtlas.Proofs.Text.Symbols
import SchemaAtlas.Proofs.Text.Uppercasing
import SchemaAtlas.Proofs.Text.Words
import SchemaAtlas.Proofs.Typing.Affinities
import SchemaAtlas.Proofs.Typing.CaseFolding
import SchemaAtlas.Proofs.Typing.Collections
import SchemaAtlas.Proofs.Typing.Extents
import SchemaAtlas.Proofs.Typing.Families
import SchemaAtlas.Proofs.Typing.Groups
import SchemaAtlas.Proofs.Typing.InlineTypes
import SchemaAtlas.Proofs.Typing.JsonColumns
import SchemaAtlas.Proofs.Typing.NumberWidths
import SchemaAtlas.Proofs.Typing.UserDefined
import SchemaAtlas.Registry
import SchemaAtlas.Text.Alphabetic
import SchemaAtlas.Text.Blank
import SchemaAtlas.Text.CaseMap
import SchemaAtlas.Text.LetterCase
import SchemaAtlas.Text.Numeral
import SchemaAtlas.Text.Numeric
import SchemaAtlas.Text.Quoted
import SchemaAtlas.Text.Search
import SchemaAtlas.Text.Span
import SchemaAtlas.Text.Utf8
import SchemaAtlas.Text.WordCharacter
import SchemaAtlas.Toml.Document
import SchemaAtlas.Toml.Key
import SchemaAtlas.Toml.Moment
import SchemaAtlas.Toml.Number
import SchemaAtlas.Toml.Quoted
import SchemaAtlas.Toml.Space
import SchemaAtlas.Toml.Value
import SchemaAtlas.Toml.Word
import SchemaAtlas.Typing.Descriptor
import SchemaAtlas.Typing.Target
import SchemaAtlas.Vocabulary.MySql
import SchemaAtlas.Vocabulary.Oracle
import SchemaAtlas.Vocabulary.PostgreSql
import SchemaAtlas.Vocabulary.Sqlite
