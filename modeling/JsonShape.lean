import JsonShape.Main
import JsonShape.Proofs.Registry.Closure
import JsonShape.Proofs.Registry.Inhabits
import JsonShape.Proofs.Convert.Report
import JsonShape.Proofs.Json.Scalars
import JsonShape.Proofs.Json.Containers
import JsonShape.Proofs.Json.Accept
import JsonShape.Proofs.Json.Writing
import JsonShape.Proofs.Declaration.Grammar
import JsonShape.Proofs.Naming
import JsonShape.Proofs.Registry.Documents
import JsonShape.Proofs.Declaration.Sentence
import JsonShape.Proofs.Registry.Keys
import JsonShape.Proofs.History.Recency
import JsonShape.Proofs.Json.Layout
import JsonShape.Proofs.File.Tree
import JsonShape.Proofs.History.File
import JsonShape.Proofs.Command.Files
import JsonShape.Proofs.Terminal.Printing
import JsonShape.Proofs.Terminal.Escape
import JsonShape.Proofs.Command.Session
import JsonShape.Proofs.Command.Failure
import JsonShape.Proofs.Yaml.Cursor
import JsonShape.Proofs.Yaml.Quoted
import JsonShape.Proofs.Yaml.Plain
import JsonShape.Proofs.Yaml.Tokens
import JsonShape.Proofs.Yaml.Graph
import JsonShape.Proofs.Yaml.Mapping
import JsonShape.Proofs.Options.File
import JsonShape.Proofs.History.Malformed
import JsonShape.Proofs.Options.Malformed
import JsonShape.Proofs.Shape.Inferred
import JsonShape.Proofs.Registry.Skeleton
import JsonShape.Proofs.Registry.Order
import JsonShape.Proofs.Number.Double
import JsonShape.Proofs.History.Stamp
import JsonShape.Proofs.Terminal.Spacing
import JsonShape.Proofs.Terminal.Table
import JsonShape.Proofs.Terminal.Shown
import JsonShape.Proofs.Command.Listing
import JsonShape.Proofs.Shape.Alternatives
import JsonShape.Proofs.Shape.Union
import JsonShape.Proofs.Shape.Exact
import JsonShape.Proofs.Registry.FieldOrder
import JsonShape.Proofs.Json.Path
import JsonShape.Proofs.Registry.Opened
import JsonShape.Proofs.Naming.Language
import JsonShape.Proofs.Registry.Distinct
import JsonShape.Convert.File
import JsonShape.Proofs.Declaration.Lines
import JsonShape.Proofs.Json.LineEnds
import JsonShape.Proofs.Convert.File
import JsonShape.Proofs.History.Frame
import JsonShape.Proofs.Declaration.Dressing
import JsonShape.Proofs.Datum
import JsonShape.Proofs.Options.Fields
