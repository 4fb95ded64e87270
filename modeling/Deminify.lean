import Deminify.Bundle.Registry
import Deminify.Bundle.Bootstrap
import Deminify.Bundle.Runtime
import Deminify.Bundle.Unpack
import Deminify.Journal
import Deminify.Command
import Deminify.Command.Basic
import Deminify.Command.Files
import Deminify.Command.Unminify
import Deminify.Command.Unpack
import Deminify.Config
import Deminify.Console
import Deminify.Console.Emoji.Names
import Deminify.Console.Markup
import Deminify.Diagnostic
import Deminify.Disk.Basic
import Deminify.Document
import Deminify.Document.Place
import Deminify.Failure
import Deminify.Grammar.Basic
import Deminify.Grammar.Binding
import Deminify.Grammar.Element
import Deminify.Grammar.Expression
import Deminify.Grammar.Formals
import Deminify.Grammar.Function
import Deminify.Grammar.Literal
import Deminify.Grammar.Program
import Deminify.Grammar.Statement
import Deminify.Json.Basic
import Deminify.Main
import Deminify.Number.Binary64
import Deminify.Number.Shortest
import Deminify.Timing
import Deminify.Pattern.Basic
import Deminify.Pattern.Reader
import Deminify.Printer.Basic
import Deminify.Printer.Expression
import Deminify.Printer.Function
import Deminify.Printer.Statement
import Deminify.Program
import Deminify.Rule.Basic
import Deminify.Rule.Context
import Deminify.Rule.Params
import Deminify.Rules.Alias
import Deminify.Rules.Destructuring
import Deminify.Rules.DirectCall
import Deminify.Rules.Element.Basic
import Deminify.Rules.Element.Restore
import Deminify.Rules.Element.Parts
import Deminify.Rules.ExtendsHelper
import Deminify.Rules.Layout
import Deminify.Rules.Layout.Cut
import Deminify.Rules.Layout.Element
import Deminify.Rules.Layout.Frame
import Deminify.Rules.Layout.Packed
import Deminify.Rules.Layout.Piece
import Deminify.Rules.Layout.Writer
import Deminify.Rules.ModuleName
import Deminify.Rules.Registry
import Deminify.Rules.StrictDirective
import Deminify.Rules.Undefined
import Deminify.Rules.WhileLoop
import Deminify.Run
import Deminify.Scope.Basic
import Deminify.Scope.Build
import Deminify.Scope.Edit
import Deminify.Setting
import Deminify.Text.CharName
import Deminify.Text.CharName.Ancient
import Deminify.Text.CharName.Pictures
import Deminify.Text.CharName.Scripts
import Deminify.Text.CharName.Symbols
import Deminify.Text.Letter
import Deminify.Text.Case
import Deminify.Text.Numeral
import Deminify.Text.Position
import Deminify.Text.Shown
import Deminify.Text.Utf8
import Deminify.Text.Width
import Deminify.Text.Word
import Deminify.Token.Basic
import Deminify.Token.Comments
import Deminify.Token.Tag
import Deminify.Token.Lexer
import Deminify.Token.Number
import Deminify.Token.Quote
import Deminify.Token.Source
import Deminify.Token.Words
import Deminify.Tree.Basic
import Deminify.Tree.Build
import Deminify.Tree.Comments
import Deminify.Tree.Kind
import Deminify.Tree.Walk
import Deminify.Proofs.Bundle.Call
import Deminify.Proofs.Bundle.Factory
import Deminify.Proofs.Bundle.FileName
import Deminify.Proofs.Bundle.Inlined
import Deminify.Proofs.Bundle.Listing
import Deminify.Proofs.Bundle.Unpacked
import Deminify.Proofs.Command.Containment
import Deminify.Proofs.Command.Results
import Deminify.Proofs.Document.Spelling
import Deminify.Proofs.Grammar.Pattern
import Deminify.Proofs.Grammar.Expression
import Deminify.Proofs.Grammar.Program
import Deminify.Proofs.Interface.Rules
import Deminify.Proofs.Printer.Attached
import Deminify.Proofs.Program
import Deminify.Proofs.Run.Outcome
import Deminify.Proofs.Scope.Capture
import Deminify.Proofs.Scope.Expression
import Deminify.Proofs.Scope.Index
import Deminify.Proofs.Scope.Walk
import Deminify.Proofs.Scope.Declarers
import Deminify.Proofs.Scope.Change
import Deminify.Proofs.Scope.Cover
import Deminify.Proofs.Document.Change
import Deminify.Proofs.DirectCall.Import
import Deminify.Proofs.DirectCall.Run
import Deminify.Proofs.Element.Children
import Deminify.Proofs.Flow.Function
import Deminify.Proofs.Token.Quoted
import Deminify.Proofs.Rule.ModuleName
import Deminify.Proofs.Program.Placed
import Deminify.Proofs.Rule.WhileLoop
import Deminify.Proofs.Rule.DirectiveComments
import Deminify.Proofs.Document.Address
import Deminify.Proofs.Document.Traversal
import Deminify.Proofs.Rule.Undefined
import Deminify.Proofs.Scope.Arena
import Deminify.Proofs.Diagnostic
import Deminify.Proofs.Token.Key
