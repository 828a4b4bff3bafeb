import PixelApplet.Applet.Basic
import PixelApplet.Applet.Context
import PixelApplet.Applet.Fault
import PixelApplet.Applet.Load
import PixelApplet.Applet.Process
import PixelApplet.Applet.Progress
import PixelApplet.Command.Basic
import PixelApplet.Command.Lint
import PixelApplet.Command.Request
import PixelApplet.Descriptor.Basic
import PixelApplet.Descriptor.Lexer
import PixelApplet.Descriptor.Reader
import PixelApplet.Descriptor.Registry
import PixelApplet.Evaluation.Call
import PixelApplet.Evaluation.Expression
import PixelApplet.Evaluation.Statement
import PixelApplet.Files.Basic
import PixelApplet.Files.Source
import PixelApplet.Json.Basic
import PixelApplet.Json.Reader
import PixelApplet.Json.Value
import PixelApplet.Library.Assertions
import PixelApplet.Library.Attributes
import PixelApplet.Library.CollectionMethods
import PixelApplet.Library.Dispatch
import PixelApplet.Library.Encodings
import PixelApplet.Library.Messages
import PixelApplet.Library.Modules
import PixelApplet.Library.Numbers
import PixelApplet.Library.Patterns
import PixelApplet.Library.Received
import PixelApplet.Library.Schemas
import PixelApplet.Library.Storage
import PixelApplet.Library.TextMethods
import PixelApplet.Library.Universe
import PixelApplet.Library.Widgets
import PixelApplet.Machine.Cancellation
import PixelApplet.Machine.State
import PixelApplet.Machine.Thread
import PixelApplet.Main
import PixelApplet.Number.Decimal
import PixelApplet.Number.Numeral
import PixelApplet.Pattern.Reader
import PixelApplet.Pattern.Replacement
import PixelApplet.Pattern.Search
import PixelApplet.Pattern.Source
import PixelApplet.Pattern.Tree
import PixelApplet.Proofs.Applet.Apartness
import PixelApplet.Proofs.Applet.Cancellation
import PixelApplet.Proofs.Applet.Cycles
import PixelApplet.Proofs.Applet.Exports
import PixelApplet.Proofs.Applet.Hosting
import PixelApplet.Proofs.Applet.InnermostFaults
import PixelApplet.Proofs.Applet.Isolation
import PixelApplet.Proofs.Applet.Life
import PixelApplet.Proofs.Applet.LoadOrder
import PixelApplet.Proofs.Applet.LoadedApplet
import PixelApplet.Proofs.Applet.Loading
import PixelApplet.Proofs.Applet.Obedience
import PixelApplet.Proofs.Applet.RequestOrigins
import PixelApplet.Proofs.Applet.Requests
import PixelApplet.Proofs.Applet.Returning
import PixelApplet.Proofs.Applet.SafeLoading
import PixelApplet.Proofs.Applet.SchemaHandlers
import PixelApplet.Proofs.Applet.SingleScripts
import PixelApplet.Proofs.Applet.StandingFunctions
import PixelApplet.Proofs.Applet.Teardown
import PixelApplet.Proofs.Applet.TestRuns
import PixelApplet.Proofs.Applet.Upholding
import PixelApplet.Proofs.Applet.Watching
import PixelApplet.Proofs.Descriptor.DeclarationReading
import PixelApplet.Proofs.Descriptor.Registration
import PixelApplet.Proofs.Descriptor.RoundTrip
import PixelApplet.Proofs.Descriptor.Spelling
import PixelApplet.Proofs.Descriptor.TreeReading
import PixelApplet.Proofs.Descriptor.Trees
import PixelApplet.Proofs.Evaluation.Agreement
import PixelApplet.Proofs.Evaluation.Asking
import PixelApplet.Proofs.Evaluation.Binding
import PixelApplet.Proofs.Evaluation.CallStack
import PixelApplet.Proofs.Evaluation.Conduct
import PixelApplet.Proofs.Evaluation.DictExpressions
import PixelApplet.Proofs.Evaluation.Discipline
import PixelApplet.Proofs.Evaluation.ErrorCourse
import PixelApplet.Proofs.Evaluation.Expressions
import PixelApplet.Proofs.Evaluation.FailureLogs
import PixelApplet.Proofs.Evaluation.FrozenData
import PixelApplet.Proofs.Evaluation.NestedLoops
import PixelApplet.Proofs.Evaluation.OwnNames
import PixelApplet.Proofs.Evaluation.Placelessness
import PixelApplet.Proofs.Evaluation.Places
import PixelApplet.Proofs.Evaluation.Posture
import PixelApplet.Proofs.Evaluation.PureModels
import PixelApplet.Proofs.Evaluation.Reporting
import PixelApplet.Proofs.Evaluation.Routine
import PixelApplet.Proofs.Evaluation.Safety
import PixelApplet.Proofs.Evaluation.SequenceSizes
import PixelApplet.Proofs.Evaluation.SharedParameters
import PixelApplet.Proofs.Evaluation.Statements
import PixelApplet.Proofs.Evaluation.StoppedExpressions
import PixelApplet.Proofs.Evaluation.StoppedThreads
import PixelApplet.Proofs.Evaluation.Tracebacks
import PixelApplet.Proofs.Evaluation.Upholding
import PixelApplet.Proofs.Evaluation.UpholdingCalls
import PixelApplet.Proofs.Evaluation.UpholdingExpressions
import PixelApplet.Proofs.Evaluation.WholeBlocks
import PixelApplet.Proofs.Files.Listings
import PixelApplet.Proofs.Files.NormalPaths
import PixelApplet.Proofs.Json.Reading
import PixelApplet.Proofs.Json.TextRoundTrip
import PixelApplet.Proofs.Json.ValueRoundTrip
import PixelApplet.Proofs.Library.Attributes
import PixelApplet.Proofs.Library.Callbacks
import PixelApplet.Proofs.Library.Collections
import PixelApplet.Proofs.Library.Dispatch
import PixelApplet.Proofs.Library.Extremes
import PixelApplet.Proofs.Library.FailedChanges
import PixelApplet.Proofs.Library.FillingTemplates
import PixelApplet.Proofs.Library.ListedAttributes
import PixelApplet.Proofs.Library.Mappings
import PixelApplet.Proofs.Library.PlainFunctions
import PixelApplet.Proofs.Library.Ranges
import PixelApplet.Proofs.Library.ReadingInts
import PixelApplet.Proofs.Library.Receiving
import PixelApplet.Proofs.Library.Routines
import PixelApplet.Proofs.Library.SearchingTexts
import PixelApplet.Proofs.Library.Sequences
import PixelApplet.Proofs.Library.Sorting
import PixelApplet.Proofs.Library.SplittingTexts
import PixelApplet.Proofs.Library.Upholding
import PixelApplet.Proofs.Machine.Courses
import PixelApplet.Proofs.Machine.Registrations
import PixelApplet.Proofs.Machine.TokenProtocol
import PixelApplet.Proofs.Number.Numerals
import PixelApplet.Proofs.Number.Progressions
import PixelApplet.Proofs.Schema.FieldIds
import PixelApplet.Proofs.Schema.HandlerTables
import PixelApplet.Proofs.Script.CallRoundTrip
import PixelApplet.Proofs.Script.ComprehensionChains
import PixelApplet.Proofs.Script.DisplayRoundTrip
import PixelApplet.Proofs.Script.ExpressionRoundTrip
import PixelApplet.Proofs.Script.FileRoundTrip
import PixelApplet.Proofs.Script.OperatorChains
import PixelApplet.Proofs.Script.OperatorRoundTrip
import PixelApplet.Proofs.Script.ParsedPlacement
import PixelApplet.Proofs.Script.Placement
import PixelApplet.Proofs.Script.Rendering
import PixelApplet.Proofs.Script.StatementRoundTrip
import PixelApplet.Proofs.Text.Splitting
import PixelApplet.Proofs.Token.BlankLines
import PixelApplet.Proofs.Token.Layout
import PixelApplet.Proofs.Token.Lookahead
import PixelApplet.Proofs.Token.OutlineRoundTrip
import PixelApplet.Proofs.Token.ReadingLines
import PixelApplet.Proofs.Token.TruePlaces
import PixelApplet.Proofs.Token.Turns
import PixelApplet.Proofs.Token.WrittenTokens
import PixelApplet.Proofs.Value.Changes
import PixelApplet.Proofs.Value.Circles
import PixelApplet.Proofs.Value.Comparisons
import PixelApplet.Proofs.Value.Equality
import PixelApplet.Proofs.Value.Freezing
import PixelApplet.Proofs.Value.IntegerArithmetic
import PixelApplet.Proofs.Value.OrderedMaps
import PixelApplet.Proofs.Value.Passing
import PixelApplet.Proofs.Value.Realms
import PixelApplet.Proofs.Value.Results
import PixelApplet.Proofs.Value.Slices
import PixelApplet.Proofs.Value.Sound
import PixelApplet.Proofs.Value.Texts
import PixelApplet.Render.Widget
import PixelApplet.Schema.Document
import PixelApplet.Schema.Field
import PixelApplet.Script.Parser
import PixelApplet.Script.ParserState
import PixelApplet.Script.Tree
import PixelApplet.Text.Base64
import PixelApplet.Text.Character
import PixelApplet.Text.Position
import PixelApplet.Text.Quoted
import PixelApplet.Text.Ranges
import PixelApplet.Text.Search
import PixelApplet.Text.Table.BinaryProperty
import PixelApplet.Text.Table.CaseMapping
import PixelApplet.Text.Table.CharacterClass
import PixelApplet.Text.Table.GeneralCategory
import PixelApplet.Text.Table.Script
import PixelApplet.Text.Utf8
import PixelApplet.Token.Basic
import PixelApplet.Token.Lexeme
import PixelApplet.Token.Lexer
import PixelApplet.Value.Action
import PixelApplet.Value.Arguments
import PixelApplet.Value.Basic
import PixelApplet.Value.Equality
import PixelApplet.Value.HashKey
import PixelApplet.Value.Heap
import PixelApplet.Value.Operators
import PixelApplet.Value.Text
