import CatalogTypes.Adapter
import CatalogTypes.Address.Call
import CatalogTypes.Catalog.Autoincrement
import CatalogTypes.Catalog.Basic
import CatalogTypes.Catalog.Check
import CatalogTypes.Catalog.Decode
import CatalogTypes.Catalog.Dump
import CatalogTypes.Catalog.Enrich
import CatalogTypes.Catalog.Fault
import CatalogTypes.Catalog.Filter
import CatalogTypes.Catalog.Glob
import CatalogTypes.Catalog.Postgres
import CatalogTypes.Catalog.Sqlite
import CatalogTypes.Command.Arguments
import CatalogTypes.Command.Options
import CatalogTypes.Command.Texts
import CatalogTypes.Declaration.Basic
import CatalogTypes.Declaration.Decode
import CatalogTypes.Declaration.Node
import CatalogTypes.Declaration.References
import CatalogTypes.Declaration.Render
import CatalogTypes.Dialect
import CatalogTypes.EnvFile.Expand
import CatalogTypes.EnvFile.Load
import CatalogTypes.EnvFile.Loader
import CatalogTypes.EnvFile.Statement
import CatalogTypes.Files.Disk
import CatalogTypes.Files.Path
import CatalogTypes.Files.Tree
import CatalogTypes.Helper
import CatalogTypes.Imports
import CatalogTypes.Json.Basic
import CatalogTypes.Json.Display
import CatalogTypes.Json.Parser
import CatalogTypes.Json.Printer
import CatalogTypes.Json.Quote
import CatalogTypes.Keyed
import CatalogTypes.Log.Channel
import CatalogTypes.Log.Context
import CatalogTypes.Log.Level
import CatalogTypes.Log.Line
import CatalogTypes.Main
import CatalogTypes.Naming
import CatalogTypes.Number.Binary64
import CatalogTypes.Proofs.Autoincrement.Definition
import CatalogTypes.Proofs.Autoincrement.Letters
import CatalogTypes.Proofs.Autoincrement.Search
import CatalogTypes.Proofs.Casing
import CatalogTypes.Proofs.Check.Appended
import CatalogTypes.Proofs.Check.Bodies
import CatalogTypes.Proofs.Check.Lexemes
import CatalogTypes.Proofs.Check.Padding
import CatalogTypes.Proofs.Check.Positions
import CatalogTypes.Proofs.Check.Quoted
import CatalogTypes.Proofs.Check.Quoting
import CatalogTypes.Proofs.Check.Scan
import CatalogTypes.Proofs.Check.Shape
import CatalogTypes.Proofs.Check.Values
import CatalogTypes.Proofs.Closure
import CatalogTypes.Proofs.Contained.Comments
import CatalogTypes.Proofs.Contained.Module
import CatalogTypes.Proofs.Contained.Scan
import CatalogTypes.Proofs.Contained.Texts
import CatalogTypes.Proofs.CustomImports
import CatalogTypes.Proofs.DeclaredNames
import CatalogTypes.Proofs.Enrichment
import CatalogTypes.Proofs.EnumKeys
import CatalogTypes.Proofs.Firsts
import CatalogTypes.Proofs.Gathering
import CatalogTypes.Proofs.Keys
import CatalogTypes.Proofs.Label.Password
import CatalogTypes.Proofs.Label.Splitting
import CatalogTypes.Proofs.Lines
import CatalogTypes.Proofs.Locality
import CatalogTypes.Proofs.Lowercase
import CatalogTypes.Proofs.Mentions
import CatalogTypes.Proofs.Modifiers
import CatalogTypes.Proofs.Names
import CatalogTypes.Proofs.Order
import CatalogTypes.Proofs.Patterns
import CatalogTypes.Proofs.Printing
import CatalogTypes.Proofs.Registries
import CatalogTypes.Proofs.Requests
import CatalogTypes.Proofs.Rows
import CatalogTypes.Proofs.Run.Blocks
import CatalogTypes.Proofs.Run.Calls
import CatalogTypes.Proofs.Run.Ending
import CatalogTypes.Proofs.Run.Environment
import CatalogTypes.Proofs.Run.Failing
import CatalogTypes.Proofs.Run.Frame
import CatalogTypes.Proofs.Run.Generate
import CatalogTypes.Proofs.Run.Means
import CatalogTypes.Proofs.Run.Opening
import CatalogTypes.Proofs.Run.Reading
import CatalogTypes.Proofs.Run.Resolution
import CatalogTypes.Proofs.Run.Verify
import CatalogTypes.Proofs.Run.Writing
import CatalogTypes.Proofs.Selections
import CatalogTypes.Proofs.Settings.Documents
import CatalogTypes.Proofs.Settings.Layers
import CatalogTypes.Proofs.Settings.Mappings
import CatalogTypes.Proofs.Settings.Precedence
import CatalogTypes.Proofs.Sorting
import CatalogTypes.Proofs.Spelling
import CatalogTypes.Proofs.Statements
import CatalogTypes.Proofs.Traversal
import CatalogTypes.Proofs.Types.Arrays
import CatalogTypes.Proofs.Types.Enumerated
import CatalogTypes.Proofs.Types.Literals
import CatalogTypes.Proofs.Types.Meaning
import CatalogTypes.Proofs.Types.Parts
import CatalogTypes.Proofs.Types.Unambiguous
import CatalogTypes.Resolve.Column
import CatalogTypes.Resolve.Decode
import CatalogTypes.Resolve.Options
import CatalogTypes.Resolve.Usage
import CatalogTypes.Session.Address
import CatalogTypes.Session.Basic
import CatalogTypes.Session.Command
import CatalogTypes.Session.Declare
import CatalogTypes.Session.Document
import CatalogTypes.Session.Generate
import CatalogTypes.Session.Introspect
import CatalogTypes.Session.Output
import CatalogTypes.Session.World
import CatalogTypes.Settings.Basic
import CatalogTypes.Settings.Layered
import CatalogTypes.Settings.Sources
import CatalogTypes.Text.Alphanumeric
import CatalogTypes.Text.Blank
import CatalogTypes.Text.Case
import CatalogTypes.Text.CaseTable
import CatalogTypes.Text.Half
import CatalogTypes.Text.Numeral
import CatalogTypes.Text.Printable
import CatalogTypes.Text.Quoted
import CatalogTypes.Text.Spans
import CatalogTypes.Text.Utf8
import CatalogTypes.Transform
import CatalogTypes.Url.HostLiteral
import CatalogTypes.Url.Label
import CatalogTypes.Url.Split
