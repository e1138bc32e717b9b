import SpringScaffold.Binary64
import SpringScaffold.Command.Arguments
import SpringScaffold.Command.Failure
import SpringScaffold.Command.Output
import SpringScaffold.Command.Run
import SpringScaffold.Config
import SpringScaffold.Config.Document
import SpringScaffold.Config.Load
import SpringScaffold.Decimal.Shortest
import SpringScaffold.Decimal.Style
import SpringScaffold.Dictionary
import SpringScaffold.Disk.Host
import SpringScaffold.Disk.OsError
import SpringScaffold.Disk.Path
import SpringScaffold.Disk.Route
import SpringScaffold.Disk.Tree
import SpringScaffold.Grouping
import SpringScaffold.ImportMapping
import SpringScaffold.ImportSet
import SpringScaffold.Java.Controller
import SpringScaffold.Java.File
import SpringScaffold.Java.Imports
import SpringScaffold.Java.Method
import SpringScaffold.Java.ModelClass
import SpringScaffold.Java.Output
import SpringScaffold.Java.Service
import SpringScaffold.Java.Text
import SpringScaffold.Json.Document
import SpringScaffold.Json.Numeral
import SpringScaffold.Json.Printer
import SpringScaffold.Json.Reader
import SpringScaffold.Json.Tree
import SpringScaffold.Log
import SpringScaffold.Main
import SpringScaffold.Mismatch
import SpringScaffold.Name
import SpringScaffold.Proofs.Annotations
import SpringScaffold.Proofs.Casing
import SpringScaffold.Proofs.Commands
import SpringScaffold.Proofs.Confinement
import SpringScaffold.Proofs.Conservation
import SpringScaffold.Proofs.ContainerGrammar
import SpringScaffold.Proofs.Cut
import SpringScaffold.Proofs.Delegation
import SpringScaffold.Proofs.Delivery
import SpringScaffold.Proofs.Descriptions
import SpringScaffold.Proofs.DtoSuffix
import SpringScaffold.Proofs.EnumConstants
import SpringScaffold.Proofs.Extensions
import SpringScaffold.Proofs.Fitting
import SpringScaffold.Proofs.FreeValues
import SpringScaffold.Proofs.Grouping
import SpringScaffold.Proofs.Growth
import SpringScaffold.Proofs.Identifiers
import SpringScaffold.Proofs.ImportSections
import SpringScaffold.Proofs.Imports
import SpringScaffold.Proofs.Literals
import SpringScaffold.Proofs.Machine
import SpringScaffold.Proofs.MapRuns
import SpringScaffold.Proofs.MapTypes
import SpringScaffold.Proofs.MappedImports
import SpringScaffold.Proofs.Members
import SpringScaffold.Proofs.Naming
import SpringScaffold.Proofs.Normalize
import SpringScaffold.Proofs.Numerals
import SpringScaffold.Proofs.OneLine
import SpringScaffold.Proofs.Places
import SpringScaffold.Proofs.Pointwise
import SpringScaffold.Proofs.PropertyImports
import SpringScaffold.Proofs.Records
import SpringScaffold.Proofs.References
import SpringScaffold.Proofs.Regeneration
import SpringScaffold.Proofs.Relocation
import SpringScaffold.Proofs.Rename
import SpringScaffold.Proofs.Renderings
import SpringScaffold.Proofs.RoundTrip
import SpringScaffold.Proofs.Routing
import SpringScaffold.Proofs.Runs
import SpringScaffold.Proofs.Separators
import SpringScaffold.Proofs.Spelling
import SpringScaffold.Proofs.SplitOn
import SpringScaffold.Proofs.StageOrder
import SpringScaffold.Proofs.StageRepeat
import SpringScaffold.Proofs.Steps
import SpringScaffold.Proofs.SuffixedIdentifiers
import SpringScaffold.Proofs.Walk
import SpringScaffold.Proofs.Words
import SpringScaffold.Proofs.Wrapping
import SpringScaffold.Proofs.Writing
import SpringScaffold.Proofs.YamlFitting
import SpringScaffold.Schema
import SpringScaffold.Signature
import SpringScaffold.Spec
import SpringScaffold.Spec.Document
import SpringScaffold.Spec.Load
import SpringScaffold.Stage
import SpringScaffold.Text.Alphanumeric
import SpringScaffold.Text.Blank
import SpringScaffold.Text.LetterCase
import SpringScaffold.Text.Quoted
import SpringScaffold.Text.Runs
import SpringScaffold.Text.Span
import SpringScaffold.Value
import SpringScaffold.Yaml.Cursor
import SpringScaffold.Yaml.Document
import SpringScaffold.Yaml.Grammar
import SpringScaffold.Yaml.Label
import SpringScaffold.Yaml.Lexer
import SpringScaffold.Yaml.Node
import SpringScaffold.Yaml.Plain
import SpringScaffold.Yaml.Printer
import SpringScaffold.Yaml.Scalar
import SpringScaffold.Yaml.Tag
import SpringScaffold.Yaml.Token
