import ApiCompiler.Action
import ApiCompiler.Calendar
import ApiCompiler.Call.Fault
import ApiCompiler.Call.Layers
import ApiCompiler.Call.Mapping
import ApiCompiler.Call.Ordering
import ApiCompiler.Call.Request
import ApiCompiler.Charset
import ApiCompiler.Charset.Japanese
import ApiCompiler.Charset.Korean
import ApiCompiler.Charset.Pairing
import ApiCompiler.Charset.Simplified
import ApiCompiler.Charset.Table
import ApiCompiler.Charset.Traditional
import ApiCompiler.Charset.Wide
import ApiCompiler.CommandLine
import ApiCompiler.CommandLine.Command
import ApiCompiler.CommandLine.Flags
import ApiCompiler.CommandLine.Generate
import ApiCompiler.CommandLine.Inspect
import ApiCompiler.Console
import ApiCompiler.Console.Session
import ApiCompiler.Decimal.Binary64
import ApiCompiler.Decimal.Layout
import ApiCompiler.Decimal.Numeral
import ApiCompiler.Description
import ApiCompiler.Description.Extraction
import ApiCompiler.Description.Record
import ApiCompiler.Description.SchemaTypes
import ApiCompiler.Document.Fault
import ApiCompiler.Document.Inlining
import ApiCompiler.Document.Pointer
import ApiCompiler.Document.Reading
import ApiCompiler.Document.Source
import ApiCompiler.Document.Version
import ApiCompiler.Failure
import ApiCompiler.Files
import ApiCompiler.Files.Content
import ApiCompiler.Files.Fault
import ApiCompiler.Files.Path
import ApiCompiler.Files.Replacement
import ApiCompiler.Host.Composition
import ApiCompiler.Host.Direction
import ApiCompiler.Host.Mark
import ApiCompiler.Host.Name
import ApiCompiler.Host.Neighbours
import ApiCompiler.Host.Numeric
import ApiCompiler.Host.Permitted
import ApiCompiler.Host.Punycode
import ApiCompiler.Json.Fault
import ApiCompiler.Json.Printer
import ApiCompiler.Json.Reader
import ApiCompiler.Logged
import ApiCompiler.Machine
import ApiCompiler.Main
import ApiCompiler.Misuse
import ApiCompiler.Module.Assembly
import ApiCompiler.Module.Fragment
import ApiCompiler.Module.Function
import ApiCompiler.Module.Helpers
import ApiCompiler.Naming
import ApiCompiler.Plan
import ApiCompiler.Plan.All
import ApiCompiler.Plan.Fault
import ApiCompiler.Plan.Operation
import ApiCompiler.Plan.Path
import ApiCompiler.Plan.Record
import ApiCompiler.Settings
import ApiCompiler.Settings.Reader
import ApiCompiler.Settings.Fault
import ApiCompiler.Shape
import ApiCompiler.Sorting.Merge
import ApiCompiler.Sorting.Run
import ApiCompiler.Text.Base64
import ApiCompiler.Text.Blank
import ApiCompiler.Text.Digit
import ApiCompiler.Text.Lines
import ApiCompiler.Text.Lowercase
import ApiCompiler.Text.Placeholder
import ApiCompiler.Text.Quoted
import ApiCompiler.Text.Spare
import ApiCompiler.Text.Uppercase
import ApiCompiler.Text.Utf8
import ApiCompiler.Value
import ApiCompiler.Value.Display
import ApiCompiler.Value.Order
import ApiCompiler.Wire.Credentials
import ApiCompiler.Wire.Fault
import ApiCompiler.Wire.Header
import ApiCompiler.Wire.Message
import ApiCompiler.Wire.Payload
import ApiCompiler.Wire.Percent
import ApiCompiler.Wire.Query
import ApiCompiler.Wire.Url
import ApiCompiler.Work
import ApiCompiler.Yaml.Content
import ApiCompiler.Yaml.Cursor
import ApiCompiler.Yaml.Lexeme
import ApiCompiler.Yaml.Node
import ApiCompiler.Yaml.Scalar
import ApiCompiler.Yaml.Tag
import ApiCompiler.Yaml.Timestamp
import ApiCompiler.Yaml.Token
import ApiCompiler.Yaml.Tokens
import ApiCompiler.Proofs.Naming
import ApiCompiler.Proofs.Outcome
import ApiCompiler.Proofs.Logged
import ApiCompiler.Proofs.Description.Operations
import ApiCompiler.Proofs.Description.SchemaTypes
import ApiCompiler.Proofs.Stumbling
import ApiCompiler.Proofs.Description.Stumbling
import ApiCompiler.Proofs.Plan.Operation
import ApiCompiler.Proofs.Plan.Places
import ApiCompiler.Proofs.Plan.WellFormed
import ApiCompiler.Proofs.Plan.Prose
import ApiCompiler.Proofs.Call.Dispatch
import ApiCompiler.Proofs.Call.Layers
import ApiCompiler.Proofs.Call.Headers
import ApiCompiler.Proofs.Call.HeaderArguments
import ApiCompiler.Proofs.Files.Places
import ApiCompiler.Proofs.Files.Steps
import ApiCompiler.Proofs.Files.Replacement
import ApiCompiler.Proofs.Files.Spared
import ApiCompiler.Proofs.Files.Mishaps
import ApiCompiler.Proofs.Json.Syntax
import ApiCompiler.Proofs.Repetition
import ApiCompiler.Proofs.Settings.Reader
import ApiCompiler.Proofs.Settings.Precedence
import ApiCompiler.Proofs.Document.Source
import ApiCompiler.Proofs.Document.References
import ApiCompiler.Proofs.Document.Walks
import ApiCompiler.Proofs.Text.Returns
import ApiCompiler.Proofs.Text.Numeral
import ApiCompiler.Proofs.Text.Pieces
import ApiCompiler.Proofs.Call.Address
import ApiCompiler.Proofs.Call.Query
import ApiCompiler.Proofs.Call.Isolation
import ApiCompiler.Proofs.Module.Returns
import ApiCompiler.Proofs.Module.Lexis
import ApiCompiler.Proofs.Wire.Percent
import ApiCompiler.Proofs.Host.Name
import ApiCompiler.Proofs.Wire.Server
import ApiCompiler.Proofs.CommandLine.Generate
import ApiCompiler.Proofs.CommandLine.Spared
import ApiCompiler.Proofs.CommandLine.AllOrNothing
import ApiCompiler.Proofs.CommandLine.Preview
import ApiCompiler.Proofs.CommandLine.Agreement
import ApiCompiler.Proofs.Plan.Exported
import ApiCompiler.Proofs.Module.Closed
import ApiCompiler.Proofs.Module.Documentation
import ApiCompiler.Proofs.Wire.Path
import ApiCompiler.Proofs.Wire.Confinement
import ApiCompiler.Proofs.Json.Reading
import ApiCompiler.Proofs.Yaml.Cursor
import ApiCompiler.Proofs.Yaml.Lexeme
import ApiCompiler.Proofs.Yaml.Cutting
import ApiCompiler.Proofs.Yaml.Tokens
import ApiCompiler.Proofs.Yaml.Scalar
import ApiCompiler.Proofs.Module.Behaviour
import ApiCompiler.Proofs.Call.HiddenNames
import ApiCompiler.Proofs.Plan.Template
import ApiCompiler.Proofs.Plan.Consistent
import ApiCompiler.Proofs.Call.MediaType
import ApiCompiler.Proofs.Call.CanonicalOrder
import ApiCompiler.Proofs.Document.Portable
import ApiCompiler.Proofs.Document.Flattening
import ApiCompiler.Proofs.Document.Recursion
import ApiCompiler.Proofs.Document.Pointers
import ApiCompiler.Proofs.Document.Version
import ApiCompiler.Proofs.Text.Cut
import ApiCompiler.Proofs.Description.Servers
import ApiCompiler.Proofs.Description.Overriding
import ApiCompiler.Proofs.Text.Spelling
import ApiCompiler.Proofs.Document.Tokens
import ApiCompiler.Proofs.Json.Printed
import ApiCompiler.Proofs.Console.Streams
import ApiCompiler.Proofs.CommandLine.Inspect
import ApiCompiler.Proofs.Naming.Words
import ApiCompiler.Proofs.Module.Prose
import ApiCompiler.Proofs.Value.Domain
