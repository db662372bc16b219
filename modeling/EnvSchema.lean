import EnvSchema.Script.Fault
import EnvSchema.Script.Dialect
import EnvSchema.Text.Letters
import EnvSchema.Text.Cells
import EnvSchema.Text.Shown
import EnvSchema.Script.Token
import EnvSchema.Script.Comment
import EnvSchema.Number.Shortest
import EnvSchema.Number.Reading
import EnvSchema.Script.Node
import EnvSchema.Script.Reader.Blanks
import EnvSchema.Script.Reader.Digits
import EnvSchema.Script.Reader.Words
import EnvSchema.Script.Reader.Lexemes
import EnvSchema.Script.Numeral
import EnvSchema.Script.TokenText
import EnvSchema.Script.Reader.Cursor
import EnvSchema.Script.Reader.Names
import EnvSchema.Script.Reader.Patterns
import EnvSchema.Script.Reader.Types
import EnvSchema.Script.Reader.Functions
import EnvSchema.Script.Reader.Objects
import EnvSchema.Script.Reader.Classes
import EnvSchema.Script.Walk
import EnvSchema.Script.Reader.TypeDeclarations
import EnvSchema.Script.Reader.Elements
import EnvSchema.Script.Reader.Expressions
import EnvSchema.Script.Reader.Whole
import EnvSchema.Text.Columns
import EnvSchema.Script.Module
import EnvSchema.Names
import EnvSchema.Script.References
import EnvSchema.Text.Blank
import EnvSchema.Script.Printer.Whole
import EnvSchema.Config.Settings
import EnvSchema.Schema.Guess
import EnvSchema.Schema.Schema
import EnvSchema.Files.Tree
import EnvSchema.Glob.Search
import EnvSchema.Project.Manifest
import EnvSchema.Check
import EnvSchema.Project.Context
import EnvSchema.Config.File
import EnvSchema.Program
import EnvSchema.Terminal.Answers
import EnvSchema.Main
import EnvSchema.Proofs.Script.Refill
import EnvSchema.Proofs.Script.Change
import EnvSchema.Proofs.Script.Places
import EnvSchema.Proofs.Project.Sources
import EnvSchema.Proofs.Scan
import EnvSchema.Proofs.Files.Tree
import EnvSchema.Proofs.Schema.Adding
import EnvSchema.Proofs.Script.Breaking
import EnvSchema.Proofs.Remediation
import EnvSchema.Proofs.Script.Passing
import EnvSchema.Proofs.Script.Spelling
import EnvSchema.Proofs.Script.Undeclared
import EnvSchema.Proofs.Script.Ahead
import EnvSchema.Proofs.Script.Operands
import EnvSchema.Proofs.Script.Calls
import EnvSchema.Proofs.Script.Fields
import EnvSchema.Proofs.Schema.Field
import EnvSchema.Proofs.Schema.Keys
import EnvSchema.Proofs.Schema.History
import EnvSchema.Proofs.Schema.Idling
import EnvSchema.Proofs.Script.Keys
import EnvSchema.Proofs.Script.Cutting
import EnvSchema.Proofs.Script.Gaps
import EnvSchema.Proofs.Script.Literals
import EnvSchema.Proofs.Script.Printing
import EnvSchema.Proofs.Dialogue
import EnvSchema.Proofs.Asking
import EnvSchema.Proofs.Schema.Reprinting
import EnvSchema.Proofs.Schema.Placing
import EnvSchema.Proofs.Frame
import EnvSchema.Proofs.Declining
import EnvSchema.Proofs.Script.Replacing
import EnvSchema.Proofs.Schema.Growing
import EnvSchema.Proofs.Project.Rewriting
import EnvSchema.Proofs.Confirming
import EnvSchema.Proofs.Settling
import EnvSchema.Proofs.Repeating
import EnvSchema.Project.Tasks
import EnvSchema.Proofs.Project.Tasks
import EnvSchema.Proofs.Files.Path
import EnvSchema.Proofs.Files.Way
import EnvSchema.Proofs.Glob.Pattern
import EnvSchema.Proofs.Glob.Search
import EnvSchema.Proofs.Project.Listing
import EnvSchema.Proofs.Project.Dialects
import EnvSchema.Proofs.Stopping
import EnvSchema.Proofs.Prompting
import EnvSchema.Proofs.Project.Environment
import EnvSchema.Proofs.Project.Declaring
import EnvSchema.Proofs.Script.Tallying
import EnvSchema.Proofs.Project.Root
import EnvSchema.Proofs.Config.File
