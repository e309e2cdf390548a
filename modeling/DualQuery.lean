import DualQuery.Aggregate
import DualQuery.Cache.Basic
import DualQuery.Cache.Key
import DualQuery.Config
import DualQuery.Decimal.Binary64
import DualQuery.Decimal.Shortest
import DualQuery.Decimal.Style
import DualQuery.Demo
import DualQuery.Description
import DualQuery.Document.Compile
import DualQuery.Document.Describe
import DualQuery.Document.Evaluate
import DualQuery.Document.Form
import DualQuery.Document.Pipeline
import DualQuery.Document.Writer
import DualQuery.Engine.Backend
import DualQuery.Engine.Document
import DualQuery.Engine.Relational
import DualQuery.Engine.Request
import DualQuery.Engine.Run
import DualQuery.Engine.Session
import DualQuery.Engine.Transaction
import DualQuery.Json.Basic
import DualQuery.Json.Number
import DualQuery.Json.Quoted
import DualQuery.Json.Reader
import DualQuery.Json.Skim
import DualQuery.Json.Slots
import DualQuery.Json.Writer
import DualQuery.Keyed
import DualQuery.Main
import DualQuery.Partition
import DualQuery.Pattern.Automaton
import DualQuery.Pattern.Bracketed
import DualQuery.Pattern.CharSet
import DualQuery.Pattern.Escape
import DualQuery.Pattern.Like
import DualQuery.Pattern.Normal
import DualQuery.Pattern.Reader
import DualQuery.Pattern.Regex
import DualQuery.Proofs.AliasConditions
import DualQuery.Proofs.BackendParity
import DualQuery.Proofs.Canonical
import DualQuery.Proofs.CanonicalStages
import DualQuery.Proofs.CompiledPipelines
import DualQuery.Proofs.CompiledPlans
import DualQuery.Proofs.DistributedRun
import DualQuery.Proofs.FilterCorrect
import DualQuery.Proofs.FilteredDocuments
import DualQuery.Proofs.GroupRows
import DualQuery.Proofs.HiddenRecords
import DualQuery.Proofs.JoinRows
import DualQuery.Proofs.KeyedOrder
import DualQuery.Proofs.PartitionCover
import DualQuery.Proofs.RecordPath
import DualQuery.Proofs.RunOutcome
import DualQuery.Proofs.RunValue
import DualQuery.Proofs.StableSort
import DualQuery.Proofs.ValueHash
import DualQuery.Proofs.ValueOrder
import DualQuery.Query.Condition
import DualQuery.Query.Context
import DualQuery.Query.Descriptor
import DualQuery.Query.Operator
import DualQuery.Query.Reader
import DualQuery.Query.Search
import DualQuery.Query.Writer
import DualQuery.Record
import DualQuery.Record.Groups
import DualQuery.Relational.Compile
import DualQuery.Relational.Describe
import DualQuery.Relational.Evaluate
import DualQuery.Relational.Form
import DualQuery.Relational.Plan
import DualQuery.Relational.Text
import DualQuery.Result
import DualQuery.Schema.Catalog
import DualQuery.Schema.Entity
import DualQuery.Schema.Reader
import DualQuery.Schema.Resolution
import DualQuery.Sql.Call
import DualQuery.Sql.Change
import DualQuery.Sql.Column
import DualQuery.Sql.DataType
import DualQuery.Sql.Definition
import DualQuery.Sql.Expression
import DualQuery.Sql.Identifier
import DualQuery.Sql.Keyword
import DualQuery.Sql.Projection
import DualQuery.Sql.Query
import DualQuery.Sql.Reader
import DualQuery.Sql.Select
import DualQuery.Sql.Session
import DualQuery.Sql.Source
import DualQuery.Sql.Statement
import DualQuery.Sql.Token
import DualQuery.StableSort
import DualQuery.Store.Basic
import DualQuery.Store.Error
import DualQuery.Store.Populate
import DualQuery.Strategy
import DualQuery.Text.Alphabetic
import DualQuery.Text.Blank
import DualQuery.Text.Fold
import DualQuery.Text.Numeral
import DualQuery.Text.Numeric
import DualQuery.Text.Path
import DualQuery.Text.Ranges
import DualQuery.Text.Utf8
import DualQuery.Text.Word
import DualQuery.Value.Basic
import DualQuery.Value.Hash
import DualQuery.Value.Index
import DualQuery.Value.Json
import DualQuery.Value.Order
import DualQuery.Proofs.RequestValue
import DualQuery.Proofs.StreamedPage
import DualQuery.Proofs.SessionState
import DualQuery.Proofs.PagedResult
import DualQuery.Proofs.RoundingInterval
import DualQuery.Proofs.ShortestDecimal
import DualQuery.Proofs.NumberText
import DualQuery.Proofs.JsonText
import DualQuery.Proofs.TimestampOperands
import DualQuery.Proofs.KeyMaterial
import DualQuery.Proofs.CachedEntries
import DualQuery.Proofs.ResultContent
import DualQuery.Proofs.CachedRequests
import DualQuery.Proofs.RoundedQuotient
import DualQuery.Proofs.ReadValues
import DualQuery.Proofs.ReadConditions
import DualQuery.Proofs.RepeatedOperators
import DualQuery.Proofs.CacheTransparency
import DualQuery.Proofs.CacheAccounts
import DualQuery.Proofs.ProjectedPaths
import DualQuery.Proofs.GroupedSelection
import DualQuery.Proofs.PlanParameters
import DualQuery.Proofs.LiteralFreeSql
import DualQuery.Proofs.PrintedTexts
import DualQuery.Proofs.FaithfulConditions
import DualQuery.Proofs.DescriptorRoundTrip
import DualQuery.Proofs.Transactions
import DualQuery.Proofs.CacheEviction
import DualQuery.Proofs.QueryForm
import DualQuery.Proofs.RegexMatch
import DualQuery.Proofs.WrittenPieces
import DualQuery.Proofs.PatternRoom
import DualQuery.Proofs.SearchParity
import DualQuery.Proofs.SupersededResults
import DualQuery.Proofs.EntityInvalidation
import DualQuery.Proofs.LawfulKeys
import DualQuery.Proofs.NestedLoopJoin
import DualQuery.Proofs.ArrayConditions
import DualQuery.Proofs.LikeGrammar
import DualQuery.Proofs.SelectionOrder
import DualQuery.Proofs.GroupPartition
import DualQuery.Proofs.LoadedRelations
import DualQuery.Proofs.SortedRecords
import DualQuery.Proofs.IntegerSums
import DualQuery.Proofs.RoundedOrder
import DualQuery.Proofs.OrderLaws
import DualQuery.Proofs.RangeSets
import DualQuery.Proofs.CharacterRoom
import DualQuery.Proofs.LiteralSearch
import DualQuery.Proofs.UnwoundRecords
import DualQuery.Proofs.ResolvedRelations
import DualQuery.Proofs.WrittenGroups
import DualQuery.Proofs.DescribedPipelines
import DualQuery.Proofs.RelationChains
import DualQuery.Proofs.RestoredTables
import DualQuery.Proofs.PathLaws
import DualQuery.Proofs.QuotedWords
import DualQuery.Proofs.QuotedNames
