import HeaderTypes.Action
import HeaderTypes.CommandLine.Arguments
import HeaderTypes.CommandLine.Clock
import HeaderTypes.CommandLine.Run
import HeaderTypes.Decimal.Float
import HeaderTypes.Decimal.Numeral
import HeaderTypes.Decimal.Rounded
import HeaderTypes.Decimal.Shortest
import HeaderTypes.Descriptor
import HeaderTypes.Document.Json.Halves
import HeaderTypes.Document.Json.Printer
import HeaderTypes.Document.Json.Reader
import HeaderTypes.Document.Model
import HeaderTypes.Document.Part
import HeaderTypes.Document.SetOrder
import HeaderTypes.Document.Timestamp
import HeaderTypes.Document.Value
import HeaderTypes.Document.Yaml.Atom
import HeaderTypes.Document.Yaml.Cells
import HeaderTypes.Document.Yaml.Fault
import HeaderTypes.Document.Yaml.Kind
import HeaderTypes.Document.Yaml.Line
import HeaderTypes.Document.Yaml.Node
import HeaderTypes.Document.Yaml.Reader
import HeaderTypes.Document.Yaml.Scalar
import HeaderTypes.Document.Yaml.Token
import HeaderTypes.Event
import HeaderTypes.Failure
import HeaderTypes.Field.Declaration
import HeaderTypes.Files.Path
import HeaderTypes.Files.Tree
import HeaderTypes.Header.Block
import HeaderTypes.Header.Comment
import HeaderTypes.Header.Diagnosis
import HeaderTypes.Log.Context
import HeaderTypes.Log.Datum
import HeaderTypes.Log.Layout
import HeaderTypes.Log.Level
import HeaderTypes.Log.Root
import HeaderTypes.Log.Template
import HeaderTypes.Main
import HeaderTypes.Manifest
import HeaderTypes.Model
import HeaderTypes.Publish
import HeaderTypes.Registry.Basic
import HeaderTypes.Registry.Compatibility
import HeaderTypes.Registry.Fields
import HeaderTypes.Registry.Primitives
import HeaderTypes.Scan
import HeaderTypes.Text.Base64
import HeaderTypes.Text.Blank
import HeaderTypes.Text.CaseTable
import HeaderTypes.Text.Digit
import HeaderTypes.Text.DigitTable
import HeaderTypes.Text.Halves
import HeaderTypes.Text.Hex
import HeaderTypes.Text.Loose
import HeaderTypes.Text.Lower
import HeaderTypes.Text.LowerTable
import HeaderTypes.Text.PrintableTable
import HeaderTypes.Text.Quoted
import HeaderTypes.Text.Utf8
import HeaderTypes.Text.Word
import HeaderTypes.Text.WordTable
import HeaderTypes.TypeName
import HeaderTypes.Proofs.Text.Words
import HeaderTypes.Proofs.Text.Parts
import HeaderTypes.Proofs.Written.Lexeme
import HeaderTypes.Proofs.Written.TypeExpr
import HeaderTypes.Proofs.TypeName.Canonical
import HeaderTypes.Proofs.Action
import HeaderTypes.Proofs.Registry.Lookup
import HeaderTypes.Proofs.Registry.Reading
import HeaderTypes.Proofs.Registry.Registration
import HeaderTypes.Proofs.Header.Names
import HeaderTypes.Proofs.Header.Definition
import HeaderTypes.Proofs.Scan.Blocks
import HeaderTypes.Proofs.Scan.Atomicity
import HeaderTypes.Proofs.Scan.Runs
import HeaderTypes.Proofs.Registry.PlainData
import HeaderTypes.Proofs.Registry.Growth
import HeaderTypes.Proofs.Registry.WellFormed
import HeaderTypes.Proofs.Written.Member
import HeaderTypes.Proofs.Written.Struct
import HeaderTypes.Proofs.Written.Header
import HeaderTypes.Proofs.Written.Registered
import HeaderTypes.Proofs.Written.RoundTrip
import HeaderTypes.Proofs.Registry.Weakening
import HeaderTypes.Proofs.Registry.Override
import HeaderTypes.Proofs.Scan.Reach
import HeaderTypes.Proofs.Scan.Commute
import HeaderTypes.Proofs.Scan.Override
import HeaderTypes.Proofs.Header.Search
import HeaderTypes.Proofs.Written.Sequence
import HeaderTypes.Proofs.Comment.Uncommented
import HeaderTypes.Proofs.Comment.Pieces
import HeaderTypes.Proofs.Header.Clear
import HeaderTypes.Proofs.Header.Blanked
import HeaderTypes.Proofs.Model.Shown
import HeaderTypes.Proofs.Registry.Frozen
import HeaderTypes.Proofs.Scan.Final
import HeaderTypes.Proofs.Document.Printed
import HeaderTypes.Proofs.Document.ReadBack
import HeaderTypes.Proofs.Document.Model
import HeaderTypes.Proofs.Model.Entries
import HeaderTypes.Proofs.Model.SelfContained
import HeaderTypes.Proofs.Written.Forward
import HeaderTypes.Proofs.Scan.Rescan
import HeaderTypes.Proofs.Header.Followed
import HeaderTypes.Proofs.Header.Seam
import HeaderTypes.Proofs.Scan.Split
import HeaderTypes.Proofs.Registry.Calls
import HeaderTypes.Proofs.CommandLine.Steps
import HeaderTypes.Proofs.CommandLine.Ending
import HeaderTypes.Proofs.Scan.Steps
import HeaderTypes.Proofs.Scan.Counters
import HeaderTypes.Proofs.Scan.Signatures
import HeaderTypes.Proofs.Files.Changes
import HeaderTypes.Proofs.CommandLine.Publishing
import HeaderTypes.Proofs.CommandLine.Pipeline
import HeaderTypes.Proofs.CommandLine.Failure
import HeaderTypes.Proofs.Scan.Refusals
import HeaderTypes.Proofs.Manifest.Primitives
import HeaderTypes.Proofs.Comment.Strip
import HeaderTypes.Proofs.Field.Split
import HeaderTypes.Proofs.Field.Grammar
import HeaderTypes.Proofs.Written.Parameter
import HeaderTypes.Proofs.Header.Partition
import HeaderTypes.Proofs.Field.Foreign
import HeaderTypes.Proofs.Scan.Braces
import HeaderTypes.Proofs.Text.Respaced
import HeaderTypes.Proofs.TypeName.Spaced
import HeaderTypes.Proofs.TypeName.Passes
import HeaderTypes.Proofs.TypeName.Tokenized
import HeaderTypes.Proofs.Field.Respaced
import HeaderTypes.Proofs.Registry.Found
import HeaderTypes.Proofs.Scan.Duplicates
import HeaderTypes.Proofs.Field.Convention
import HeaderTypes.Proofs.Scan.Convention
import HeaderTypes.Proofs.Manifest.Reading
import HeaderTypes.Proofs.Manifest.WellFormed
import HeaderTypes.Proofs.Log.Configured
import HeaderTypes.Proofs.Log.Scopes
import HeaderTypes.Proofs.Header.Faults
