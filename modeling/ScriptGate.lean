import ScriptGate.Syntax.Place
import ScriptGate.Syntax.Tree
import ScriptGate.Text.Glyph
import ScriptGate.Decimal.Shortest
import ScriptGate.Decimal.Text
import ScriptGate.Data.Value
import ScriptGate.Syntax.Cooking
import ScriptGate.Syntax.Numeral
import ScriptGate.Syntax.Chars
import ScriptGate.Syntax.Token
import ScriptGate.Syntax.Lexer
import ScriptGate.Syntax.Parser.Basic
import ScriptGate.Syntax.Parser.Shapes
import ScriptGate.Syntax.Parser.Grammar
import ScriptGate.Syntax.Parser.Program
import ScriptGate.Syntax.ModuleFormat
import ScriptGate.Syntax.Recovery
import ScriptGate.Syntax.Outcome
import ScriptGate.Syntax.Document
import ScriptGate.Scope.Arena
import ScriptGate.Scope.Builder
import ScriptGate.Scope.Report
import ScriptGate.Api.Parse
import ScriptGate.Api.Scopes
import ScriptGate.Refusal
import ScriptGate.Diagnostic.Location
import ScriptGate.Diagnostic.Snippet
import ScriptGate.Diagnostic.Basic
import ScriptGate.Diagnostic.Hint
import ScriptGate.Purity.Violation
import ScriptGate.Purity.Table
import ScriptGate.Purity.Path
import ScriptGate.Purity.Analysis
import ScriptGate.Api.Purity
import ScriptGate.Text.Regex
import ScriptGate.Style.Setting
import ScriptGate.Style.Rules
import ScriptGate.Style.Lint
import ScriptGate.Style.Gate
import ScriptGate.Check.Options
import ScriptGate.Check.Report
import ScriptGate.Text.Case
import ScriptGate.Config.Settings
import ScriptGate.Config.Toml
import ScriptGate.Data.Moment
import ScriptGate.Text.Unicode
import ScriptGate.Text.Alphabetic
import ScriptGate.Text.NumberText
import ScriptGate.Text.Lines
import ScriptGate.Yaml.Token
import ScriptGate.Yaml.Token.Lexer
import ScriptGate.Yaml.Event
import ScriptGate.Yaml.Schema
import ScriptGate.Yaml.Node
import ScriptGate.Yaml.Load
import ScriptGate.Config.File
import ScriptGate.Data.Json
import ScriptGate.Command.Arguments
import ScriptGate.Command.Output
import ScriptGate.Main
import ScriptGate.Proofs.Pattern
import ScriptGate.Proofs.Purity.Walk
import ScriptGate.Proofs.Purity.PropertyWrite
import ScriptGate.Proofs.Purity.Allowance
import ScriptGate.Proofs.Syntax.Reading
import ScriptGate.Proofs.Check.Stages
import ScriptGate.Proofs.OptionalChain.Erase
import ScriptGate.Proofs.OptionalChain.Scopes
import ScriptGate.Proofs.OptionalChain.Builder
import ScriptGate.Proofs.OptionalChain.Purity
import ScriptGate.Proofs.Scope.Chain
import ScriptGate.Proofs.Scope.References
import ScriptGate.Proofs.Scope.Resolution
import ScriptGate.Proofs.Scope.Functions
import ScriptGate.Proofs.Scope.Locality
import ScriptGate.Proofs.Purity.Rebinding
import ScriptGate.Proofs.Purity.ExportSlot
import ScriptGate.Proofs.Purity.MemberChain
import ScriptGate.Proofs.Style.Findings
import ScriptGate.Proofs.Scope.Declarations
import ScriptGate.Proofs.Scope.Hoisting
import ScriptGate.Proofs.Purity.PatternSet
import ScriptGate.Proofs.Syntax.StringValue
import ScriptGate.Proofs.Syntax.Places
import ScriptGate.Proofs.OptionalChain.Links
import ScriptGate.Proofs.Diagnostic.Window
import ScriptGate.Proofs.Syntax.IntegerLiteral
import ScriptGate.Proofs.Syntax.ErrorCap
import ScriptGate.Proofs.Style.ArrowCallback
import ScriptGate.Proofs.Config.Substitution
import ScriptGate.Proofs.Syntax.Elision
import ScriptGate.Proofs.Scope.PatternWalks
import ScriptGate.Proofs.Purity.Failure
import ScriptGate.Proofs.Scope.Forest
