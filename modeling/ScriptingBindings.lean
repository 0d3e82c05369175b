import ScriptingBindings.Address
import ScriptingBindings.Build
import ScriptingBindings.Catalog.Basic
import ScriptingBindings.Catalog.BuiltIn
import ScriptingBindings.Catalog.Resolution
import ScriptingBindings.Command.Arguments
import ScriptingBindings.Command.Failure
import ScriptingBindings.Command.Run
import ScriptingBindings.Command.Session
import ScriptingBindings.Command.Switch
import ScriptingBindings.Config.Basic
import ScriptingBindings.Config.File
import ScriptingBindings.Config.Validation
import ScriptingBindings.Console.Cells
import ScriptingBindings.Console.Colour
import ScriptingBindings.Console.Emoji
import ScriptingBindings.Console.EmojiNames
import ScriptingBindings.Console.Literal
import ScriptingBindings.Console.Style
import ScriptingBindings.Console.Table
import ScriptingBindings.Console.Text
import ScriptingBindings.Console.Wrap
import ScriptingBindings.Content
import ScriptingBindings.Decimal.Basic
import ScriptingBindings.Decimal.Binary
import ScriptingBindings.Decimal.Fractional
import ScriptingBindings.Decimal.Shortest
import ScriptingBindings.Dictionary.Basic
import ScriptingBindings.Dictionary.Reader
import ScriptingBindings.FileSystem.Basic
import ScriptingBindings.FileSystem.Path
import ScriptingBindings.FourCharCode
import ScriptingBindings.Generation.Error
import ScriptingBindings.Generation.Request
import ScriptingBindings.Generation.Result
import ScriptingBindings.Identifier.Casing
import ScriptingBindings.Identifier.Pattern
import ScriptingBindings.Identifier.Sanitizer
import ScriptingBindings.Identifier.Words
import ScriptingBindings.Json.Basic
import ScriptingBindings.Json.Display
import ScriptingBindings.Json.Reader
import ScriptingBindings.Json.Sequence
import ScriptingBindings.Json.Writer
import ScriptingBindings.Language
import ScriptingBindings.Layout
import ScriptingBindings.Log
import ScriptingBindings.Machine
import ScriptingBindings.Main
import ScriptingBindings.Markup.Basic
import ScriptingBindings.Markup.Character
import ScriptingBindings.Markup.Declaration
import ScriptingBindings.Markup.Definitions
import ScriptingBindings.Markup.Encoding
import ScriptingBindings.Markup.Encoding.Big5
import ScriptingBindings.Markup.Encoding.CodePage
import ScriptingBindings.Markup.Encoding.DoubleByte
import ScriptingBindings.Markup.Encoding.Gbk
import ScriptingBindings.Markup.Encoding.Jis
import ScriptingBindings.Markup.Encoding.Korean
import ScriptingBindings.Markup.Encoding.Units
import ScriptingBindings.Markup.Locator
import ScriptingBindings.Markup.Prologue
import ScriptingBindings.Markup.Reader
import ScriptingBindings.Markup.Reference
import ScriptingBindings.Markup.Remarks
import ScriptingBindings.Markup.Scan
import ScriptingBindings.Markup.Tag
import ScriptingBindings.Markup.Value
import ScriptingBindings.Merge
import ScriptingBindings.Misuse
import ScriptingBindings.OrderedMap
import ScriptingBindings.Output
import ScriptingBindings.Source
import ScriptingBindings.Swift.Declaration
import ScriptingBindings.Swift.Keyword
import ScriptingBindings.Swift.Names
import ScriptingBindings.Swift.Options
import ScriptingBindings.Swift.Page
import ScriptingBindings.Swift.Template
import ScriptingBindings.Swift.TypeMap
import ScriptingBindings.Swift.TypeRef
import ScriptingBindings.Swift.Unit
import ScriptingBindings.Template.Basic
import ScriptingBindings.Template.Filter
import ScriptingBindings.Template.Store
import ScriptingBindings.Text.Alphanumeric
import ScriptingBindings.Text.Blank
import ScriptingBindings.Text.Casing
import ScriptingBindings.Text.Casing.Table
import ScriptingBindings.Text.Digit
import ScriptingBindings.Text.Lines
import ScriptingBindings.Text.Printable
import ScriptingBindings.Text.Quoted
import ScriptingBindings.Text.Table
import ScriptingBindings.Proofs.Catalog.Keyed
import ScriptingBindings.Proofs.Merge.Union
import ScriptingBindings.Proofs.Merge.Folding
import ScriptingBindings.Proofs.Merge.Shape
import ScriptingBindings.Proofs.Merge.Content
import ScriptingBindings.Proofs.Merge.Idempotence
import ScriptingBindings.Proofs.Success
import ScriptingBindings.Proofs.Failure
import ScriptingBindings.Proofs.Layout
import ScriptingBindings.Proofs.Template.Shape
import ScriptingBindings.Proofs.Swift.Plan
import ScriptingBindings.Proofs.Swift.Failures
import ScriptingBindings.Proofs.Swift.Members
import ScriptingBindings.Proofs.Swift.ProtocolText
import ScriptingBindings.Proofs.Swift.Pages
import ScriptingBindings.Proofs.Swift.Protocols
import ScriptingBindings.Proofs.Swift.Extensions
import ScriptingBindings.Proofs.Generation.Failures
import ScriptingBindings.Proofs.Swift.Contents
import ScriptingBindings.Proofs.Identifier.Casing
import ScriptingBindings.Proofs.Identifier.Words
import ScriptingBindings.Proofs.Swift.Prefixes
import ScriptingBindings.Proofs.Swift.Enumerations
import ScriptingBindings.Proofs.Swift.Openings
import ScriptingBindings.Proofs.Swift.TopLevel
import ScriptingBindings.Proofs.Identifier.Plural
import ScriptingBindings.Proofs.Swift.MemberNames
import ScriptingBindings.Proofs.Swift.MemberLines
import ScriptingBindings.Identifier.Memory
import ScriptingBindings.Generation.Instance
import ScriptingBindings.Proofs.Identifier.Memory
import ScriptingBindings.Proofs.Generation.History
import ScriptingBindings.Proofs.Dictionary.Visibility
import ScriptingBindings.Proofs.Dictionary.Search
import ScriptingBindings.Proofs.Dictionary.Rendering
import ScriptingBindings.Proofs.Dictionary.Recovery
import ScriptingBindings.Proofs.Alike
import ScriptingBindings.Proofs.Layout.Remarks
import ScriptingBindings.Proofs.Swift.DeclarationLines
import ScriptingBindings.Proofs.Dictionary.Descriptions
import ScriptingBindings.Proofs.Swift.Descriptions
import ScriptingBindings.Proofs.Generation.Descriptions
import ScriptingBindings.Proofs.Text.OneLine
import ScriptingBindings.Proofs.Identifier.OneLine
import ScriptingBindings.Proofs.Swift.OneLine
import ScriptingBindings.Proofs.Swift.LineStarts
import ScriptingBindings.Proofs.Generation.Injection
import ScriptingBindings.Proofs.Build.Hidden
import ScriptingBindings.Proofs.Command.AllOrNothing
import ScriptingBindings.Proofs.Command.Escapes
import ScriptingBindings.Proofs.Command.EntryPoints
import ScriptingBindings.Proofs.Swift.References
import ScriptingBindings.Proofs.Swift.Agreement
import ScriptingBindings.Proofs.Swift.Application
import ScriptingBindings.Proofs.Catalog.Decision
import ScriptingBindings.Proofs.FourCharCode
import ScriptingBindings.Proofs.Swift.Setters
import ScriptingBindings.Proofs.Swift.TypedAccessors
import ScriptingBindings.Proofs.Swift.Bindings
import ScriptingBindings.Proofs.Layout.NormalForm
import ScriptingBindings.Proofs.Text.CodePoints
import ScriptingBindings.Proofs.Text.Letters
import ScriptingBindings.Proofs.Identifier.Legality
import ScriptingBindings.Proofs.Text.Capitals
import ScriptingBindings.Proofs.Swift.Aliases
import ScriptingBindings.Proofs.Swift.Shadowing
import ScriptingBindings.Proofs.Swift.ClassNames
import ScriptingBindings.Proofs.Swift.Literals
import ScriptingBindings.Proofs.Swift.RawValues
import ScriptingBindings.Proofs.Swift.Acceptance
import ScriptingBindings.Proofs.Config.RoundTrip
