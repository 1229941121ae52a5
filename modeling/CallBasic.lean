import CallBasic.Text.Blank
import CallBasic.Text.Lines
import CallBasic.Text.Digit
import CallBasic.Text.Cased
import CallBasic.Text.Case
import CallBasic.Text.Printable
import CallBasic.Text.Quoted
import CallBasic.Text.CodeString
import CallBasic.Text.Similarity
import CallBasic.Path
import CallBasic.FileSystem
import CallBasic.Decimal.Binary
import CallBasic.Decimal.Shortest
import CallBasic.Decimal.Layout
import CallBasic.Decimal.Fixed
import CallBasic.Decimal.Read
import CallBasic.Value
import CallBasic.Host.Error
import CallBasic.Host.Value
import CallBasic.Registry
import CallBasic.Memory
import CallBasic.Random
import CallBasic.Host.Call
import CallBasic.Host.Annotation
import CallBasic.Host.Function
import CallBasic.Host.Script
import CallBasic.Builtin.Shape
import CallBasic.Builtin.Adapter
import CallBasic.Builtin.Signature
import CallBasic.Builtin.Naming
import CallBasic.Builtin.Standard
import CallBasic.Syntax.Expr
import CallBasic.Syntax.Token
import CallBasic.Syntax.Parse
import CallBasic.Syntax.Context
import CallBasic.Host.Stack
import CallBasic.Failure
import CallBasic.Eval
import CallBasic.Extension.Module
import CallBasic.Extension.Packaged
import CallBasic.Session
import CallBasic.Text.Ansi
import CallBasic.Cli.Options
import CallBasic.Cli.Report
import CallBasic.Cli.Runner
import CallBasic.Cli.Repl
import CallBasic.Cli.Surroundings
import CallBasic.Cli.Command
import CallBasic.Cli.Run
import CallBasic.Main
import CallBasic.Proofs.Registry
import CallBasic.Proofs.CallOrder
import CallBasic.Proofs.Adapter
import CallBasic.Proofs.Lexemes
import CallBasic.Proofs.Tokens
import CallBasic.Proofs.Grammar
import CallBasic.Proofs.ParseSound
import CallBasic.Proofs.ReadProgram
import CallBasic.Proofs.ExtensionLoading
import CallBasic.Proofs.ModuleDiscovery
import CallBasic.Proofs.MemoryStore
import CallBasic.Proofs.Lexing
import CallBasic.Proofs.ParseErrors
import CallBasic.Proofs.CallPositions
import CallBasic.Proofs.ErrorContext
import CallBasic.Proofs.RunReports
import CallBasic.Proofs.CallShapes
import CallBasic.Proofs.NodePositions
import CallBasic.Proofs.ReadBack
import CallBasic.Proofs.Display
import CallBasic.Proofs.TextSlices
import CallBasic.Proofs.DeepPrograms
import CallBasic.Proofs.HostNames
import CallBasic.Proofs.GlobalOptions
