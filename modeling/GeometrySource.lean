import GeometrySource.Catalogue.Generate
import GeometrySource.Layout.Emission
import GeometrySource.Naming.Element
import GeometrySource.Shape.Json
import GeometrySource.Proofs.Text.Indentation
import GeometrySource.Proofs.Text.Token
import GeometrySource.Proofs.Text.Reading
import GeometrySource.Proofs.Text.Lowercase
import GeometrySource.Proofs.Naming.Word
import GeometrySource.Proofs.Naming.TypeName
import GeometrySource.Proofs.Config.Validation
import GeometrySource.Proofs.Layout.Draft
import GeometrySource.Proofs.Layout.Operation
import GeometrySource.Proofs.Layout.Relocation
import GeometrySource.Proofs.Layout.Nesting
import GeometrySource.Proofs.Layout.Row
import GeometrySource.Proofs.Layout.Wording
import GeometrySource.Proofs.Declaration.Nesting
import GeometrySource.Proofs.Declaration.Method
import GeometrySource.Proofs.Declaration.FieldText
import GeometrySource.Proofs.Declaration.FieldReading
import GeometrySource.Proofs.Declaration.FieldFlow
import GeometrySource.Proofs.Declaration.FieldOrder
import GeometrySource.Proofs.Declaration.Line
import GeometrySource.Proofs.Declaration.Ordinary
import GeometrySource.Proofs.Declaration.Conversion
import GeometrySource.Proofs.Template.Nesting
import GeometrySource.Proofs.Template.Ordinary
import GeometrySource.Proofs.Template.Arrangement
import GeometrySource.Proofs.Catalogue.Generate
import GeometrySource.Proofs.Catalogue.Placement
import GeometrySource.Proofs.Catalogue.Conversion
import GeometrySource.Proofs.Catalogue.Plan
import GeometrySource.Proofs.Catalogue.Batch
import GeometrySource.Proofs.Layout.Balance
import GeometrySource.Proofs.Declaration.Balance
import GeometrySource.Proofs.Template.Balance
import GeometrySource.Proofs.Catalogue.Balance
import GeometrySource.Proofs.Text.Mention
import GeometrySource.Proofs.Declaration.Reference
import GeometrySource.Proofs.Template.Reference
import GeometrySource.Proofs.Catalogue.Reference
import GeometrySource.Proofs.Declaration.Footprint
import GeometrySource.Proofs.Template.Footprint
import GeometrySource.Proofs.Catalogue.Independence
import GeometrySource.Proofs.Catalogue.Stack
import GeometrySource.Proofs.Json.Number
import GeometrySource.Proofs.Json.Quoted
import GeometrySource.Proofs.Json.Token
import GeometrySource.Proofs.Json.Node
import GeometrySource.Proofs.Json.Field
import GeometrySource.Proofs.Config.Json
import GeometrySource.Proofs.Shape.Json
import GeometrySource.Proofs.Text.Edge
import GeometrySource.Proofs.Text.Opening
import GeometrySource.Proofs.Layout.Spacing
import GeometrySource.Proofs.Declaration.Landmark
import GeometrySource.Proofs.Declaration.Neat
import GeometrySource.Proofs.Declaration.Orderly
import GeometrySource.Proofs.Declaration.Frame
import GeometrySource.Proofs.Template.Orderly
import GeometrySource.Proofs.Catalogue.Outcome
import GeometrySource.Proofs.Catalogue.Spacing
import GeometrySource.Proofs.Catalogue.Landmark
import GeometrySource.Proofs.Numeric.Widening
import GeometrySource.Proofs.Config.Fault
import GeometrySource.Proofs.Layout.Writing
import GeometrySource.Proofs.Layout.Growth
import GeometrySource.Proofs.Template.Refusal
import GeometrySource.Proofs.Text.Numeral
import GeometrySource.Proofs.Naming.Element
import GeometrySource.Proofs.Naming.ElementName
import GeometrySource.Proofs.Shape.Display
import GeometrySource.Proofs.Catalogue.Record
import GeometrySource.Proofs.Declaration.LineStart
