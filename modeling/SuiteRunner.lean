import SuiteRunner.Agent
import SuiteRunner.CommandLine.Engines
import SuiteRunner.CommandLine.Options
import SuiteRunner.CommandLine.Run
import SuiteRunner.Config.Basic
import SuiteRunner.Config.Factory
import SuiteRunner.Config.Load
import SuiteRunner.Config.Schema
import SuiteRunner.Config.Tools
import SuiteRunner.Data.Basic
import SuiteRunner.Data.Date
import SuiteRunner.Data.Schema
import SuiteRunner.Data.Validation
import SuiteRunner.Data.Written
import SuiteRunner.Diagnostic
import SuiteRunner.Engine.Basic
import SuiteRunner.Engine.Fault
import SuiteRunner.Engine.IntegerFault
import SuiteRunner.Engine.Recorded
import SuiteRunner.Engine.Scripted
import SuiteRunner.Environment
import SuiteRunner.File.Finder
import SuiteRunner.File.Path
import SuiteRunner.File.Tree
import SuiteRunner.Location
import SuiteRunner.Main
import SuiteRunner.Mode
import SuiteRunner.Number.Binary64
import SuiteRunner.Number.Integer
import SuiteRunner.Number.Notation
import SuiteRunner.Number.OfDecimal
import SuiteRunner.Number.Shortest
import SuiteRunner.ParseError
import SuiteRunner.Run.Collect
import SuiteRunner.Run.Eligibility
import SuiteRunner.Run.Log
import SuiteRunner.Run.Perform
import SuiteRunner.Run.Result
import SuiteRunner.Run.Session
import SuiteRunner.Statement.Basic
import SuiteRunner.Statement.Reader
import SuiteRunner.Statement.Record
import SuiteRunner.Statement.Trace
import SuiteRunner.TestCase
import SuiteRunner.TestFile.Blocks
import SuiteRunner.TestFile.Load
import SuiteRunner.TestFile.LogicalLines
import SuiteRunner.Text.Basic
import SuiteRunner.Text.Digit
import SuiteRunner.Text.Newline
import SuiteRunner.Text.Printable
import SuiteRunner.Text.Quoted
import SuiteRunner.Text.UpperCase
import SuiteRunner.Text.Utf8
import SuiteRunner.Text.WordCharacter
import SuiteRunner.World.Basic
import SuiteRunner.World.Command
import SuiteRunner.World.Definitions
import SuiteRunner.World.Engine
import SuiteRunner.World.Expression
import SuiteRunner.World.Table
import SuiteRunner.Yaml.Document
import SuiteRunner.Yaml.Fault
import SuiteRunner.Yaml.Lexer
import SuiteRunner.Yaml.Node
import SuiteRunner.Yaml.PlainValue
import SuiteRunner.Yaml.Reader
import SuiteRunner.Yaml.Scalar
import SuiteRunner.Yaml.Timestamp
import SuiteRunner.Yaml.Token
import SuiteRunner.Proofs.Flush
import SuiteRunner.Proofs.Words
import SuiteRunner.Proofs.LastArrow
import SuiteRunner.Proofs.TraceCodec
import SuiteRunner.Proofs.CanonicalStatement
import SuiteRunner.Proofs.PlainLines
import SuiteRunner.Proofs.WrittenFile
import SuiteRunner.Proofs.Exchanges
import SuiteRunner.Proofs.Lifecycle
import SuiteRunner.Proofs.RewrittenLine
import SuiteRunner.Proofs.LineMeaning
import SuiteRunner.Proofs.Grouping
import SuiteRunner.Proofs.SettledLines
import SuiteRunner.Proofs.TextSeams
import SuiteRunner.Proofs.JoinedFiles
import SuiteRunner.Proofs.Notes
import SuiteRunner.Proofs.BrokenEscapes
import SuiteRunner.Proofs.FreshEngines
import SuiteRunner.Proofs.Accounting
import SuiteRunner.Proofs.AgentContext
import SuiteRunner.Proofs.EncodedText
import SuiteRunner.Proofs.LoadedFiles
import SuiteRunner.Proofs.SchemaMeaning
import SuiteRunner.Proofs.ConfigData
import SuiteRunner.Proofs.ConfigLoading
import SuiteRunner.Proofs.FoundFiles
import SuiteRunner.Proofs.ExitCode
import SuiteRunner.Proofs.WorldHistory
import SuiteRunner.Proofs.BinaryNumber
import SuiteRunner.Proofs.Evaluation
import SuiteRunner.Proofs.SoundWorld
import SuiteRunner.Proofs.Effects
import SuiteRunner.Proofs.Rejection
import SuiteRunner.Proofs.TurtleCount
import SuiteRunner.Proofs.LeftFold
import SuiteRunner.Proofs.StoppedEvaluation
import SuiteRunner.Proofs.RoundedQuotient
import SuiteRunner.Proofs.StackTraces
import SuiteRunner.Proofs.Dispatch
import SuiteRunner.Proofs.UndeclaredFaults
import SuiteRunner.Proofs.DefinitionGrammar
import SuiteRunner.Proofs.CompiledSources
import SuiteRunner.Proofs.FailureReports
import SuiteRunner.Proofs.CollectedTests
import SuiteRunner.Proofs.RuntimeNames
import SuiteRunner.Proofs.AcceptedConfigs
import SuiteRunner.Proofs.FileTrees
import SuiteRunner.Proofs.Discovery
import SuiteRunner.Proofs.ConfiguredFinders
import SuiteRunner.Proofs.SuiteNames
import SuiteRunner.Proofs.Assignment
import SuiteRunner.Proofs.Fallible
import SuiteRunner.Proofs.NumericChains
import SuiteRunner.Proofs.WholeQuotients
