import Phrasebook.Book
import Phrasebook.CommandLine.Console
import Phrasebook.CommandLine.Invocation
import Phrasebook.CommandLine.Run
import Phrasebook.CommandLine.Words
import Phrasebook.Dialogue
import Phrasebook.Document.Catalog
import Phrasebook.Document.Definition
import Phrasebook.Document.Scan
import Phrasebook.Document.Template
import Phrasebook.Document.Token
import Phrasebook.Engine
import Phrasebook.Error
import Phrasebook.Expression.Builtin
import Phrasebook.Expression.Evaluation
import Phrasebook.Expression.Lexeme
import Phrasebook.Expression.Literal
import Phrasebook.Expression.Place
import Phrasebook.Expression.Reader
import Phrasebook.Expression.Syntax
import Phrasebook.Failure
import Phrasebook.Fault
import Phrasebook.Files.Discovery
import Phrasebook.Files.Path
import Phrasebook.Files.Tree
import Phrasebook.Layout.Fields
import Phrasebook.Layout.Percent
import Phrasebook.Layout.Spec
import Phrasebook.Logging
import Phrasebook.Main
import Phrasebook.Moment
import Phrasebook.Number.Binary64
import Phrasebook.Number.Complex
import Phrasebook.Number.Notation
import Phrasebook.Number.Reading
import Phrasebook.Number.Rounding
import Phrasebook.Number.Shortest
import Phrasebook.Proofs.CommandLine.Ending
import Phrasebook.Proofs.Document.Block
import Phrasebook.Proofs.Document.Clashes
import Phrasebook.Proofs.Document.Cutting
import Phrasebook.Proofs.Document.FirstLine
import Phrasebook.Proofs.Document.Grammar
import Phrasebook.Proofs.Document.Joining
import Phrasebook.Proofs.Document.OneLine
import Phrasebook.Proofs.Document.Phrase
import Phrasebook.Proofs.Document.Places
import Phrasebook.Proofs.Document.Printing
import Phrasebook.Proofs.Document.Recutting
import Phrasebook.Proofs.Document.Referring
import Phrasebook.Proofs.Document.Rejection
import Phrasebook.Proofs.Document.Reprinting
import Phrasebook.Proofs.Document.Returns
import Phrasebook.Proofs.Document.Shape
import Phrasebook.Proofs.Document.Slices
import Phrasebook.Proofs.Document.SourceOrder
import Phrasebook.Proofs.Document.Spans
import Phrasebook.Proofs.Document.Spelling
import Phrasebook.Proofs.Document.Stopping
import Phrasebook.Proofs.Document.Unescaping
import Phrasebook.Proofs.Expression.Calls
import Phrasebook.Proofs.Expression.Chains
import Phrasebook.Proofs.Expression.Coincidence
import Phrasebook.Proofs.Expression.Congruence
import Phrasebook.Proofs.Expression.Failures
import Phrasebook.Proofs.Expression.NamedCall
import Phrasebook.Proofs.Expression.Names
import Phrasebook.Proofs.Expression.Passing
import Phrasebook.Proofs.Expression.Reporting
import Phrasebook.Proofs.Expression.Sandbox
import Phrasebook.Proofs.Files.Below
import Phrasebook.Proofs.Files.Collecting
import Phrasebook.Proofs.Files.Discovery
import Phrasebook.Proofs.Files.Faults
import Phrasebook.Proofs.Layout.Faults
import Phrasebook.Proofs.Rendering.Arguments
import Phrasebook.Proofs.Rendering.Asking
import Phrasebook.Proofs.Rendering.Attribution
import Phrasebook.Proofs.Rendering.Blocks
import Phrasebook.Proofs.Rendering.Bond
import Phrasebook.Proofs.Rendering.Calling
import Phrasebook.Proofs.Rendering.Course
import Phrasebook.Proofs.Rendering.Drawing
import Phrasebook.Proofs.Rendering.Entering
import Phrasebook.Proofs.Rendering.Failing
import Phrasebook.Proofs.Rendering.Frame
import Phrasebook.Proofs.Rendering.Guards
import Phrasebook.Proofs.Rendering.Handing
import Phrasebook.Proofs.Rendering.History
import Phrasebook.Proofs.Rendering.InStep
import Phrasebook.Proofs.Rendering.Interpolation
import Phrasebook.Proofs.Rendering.Literal
import Phrasebook.Proofs.Rendering.LoadOrder
import Phrasebook.Proofs.Rendering.Lockstep
import Phrasebook.Proofs.Rendering.Loops
import Phrasebook.Proofs.Rendering.Reaching
import Phrasebook.Proofs.Rendering.Shadowing
import Phrasebook.Proofs.Rendering.Swap
import Phrasebook.Proofs.Rendering.Termination
import Phrasebook.Proofs.Settings.Documents
import Phrasebook.Proofs.Settings.Faults
import Phrasebook.Proofs.Settings.Layers
import Phrasebook.Proofs.Settings.Validity
import Phrasebook.Proofs.Text.Ends
import Phrasebook.Proofs.Text.Order
import Phrasebook.Proofs.Text.SmallLetters
import Phrasebook.Proofs.Text.WideForms
import Phrasebook.Proofs.Text.Words
import Phrasebook.Proofs.Value.Binding
import Phrasebook.Rendering.Evaluate
import Phrasebook.Rendering.Session
import Phrasebook.Rendering.Span
import Phrasebook.Settings.Basic
import Phrasebook.Settings.Json
import Phrasebook.Settings.Loading
import Phrasebook.Settings.Toml
import Phrasebook.Steps
import Phrasebook.Text.Basic
import Phrasebook.Text.Blank
import Phrasebook.Text.Case
import Phrasebook.Text.Compatible
import Phrasebook.Text.Decoding
import Phrasebook.Text.Digit
import Phrasebook.Text.Identifier
import Phrasebook.Text.Pieces
import Phrasebook.Text.Printable
import Phrasebook.Text.Quoted
import Phrasebook.Text.Ranges
import Phrasebook.Text.Word
import Phrasebook.Value.Access
import Phrasebook.Value.Arguments
import Phrasebook.Value.Arithmetic
import Phrasebook.Value.Basic
import Phrasebook.Value.Equality
import Phrasebook.Value.Member
import Phrasebook.Value.Method
import Phrasebook.Value.Numeral
import Phrasebook.Value.Order
import Phrasebook.Value.Written
