import CanvasExport.Artifact
import CanvasExport.Artifact.Json
import CanvasExport.Binary.Basic
import CanvasExport.Binary.Decimal
import CanvasExport.Binary.Round
import CanvasExport.Binary.Text
import CanvasExport.Color
import CanvasExport.Color.Json
import CanvasExport.CommandLine.Arguments
import CanvasExport.CommandLine.Directory
import CanvasExport.CommandLine.Run
import CanvasExport.Decimal
import CanvasExport.Descriptor
import CanvasExport.Descriptor.Json
import CanvasExport.Dict
import CanvasExport.Document
import CanvasExport.Document.Json
import CanvasExport.Export.Component
import CanvasExport.Export.Document
import CanvasExport.Export.Layout
import CanvasExport.Export.Walk
import CanvasExport.Json.Error
import CanvasExport.Json.Read
import CanvasExport.Json.Token
import CanvasExport.Json.Tree
import CanvasExport.Json.Value
import CanvasExport.Main
import CanvasExport.Node
import CanvasExport.Props
import CanvasExport.Style
import CanvasExport.Text.Blank
import CanvasExport.Text.Quoted
import CanvasExport.Token.GridTemplate
import CanvasExport.Token.Json
import CanvasExport.Token.Palette
import CanvasExport.Token.Spacing
import CanvasExport.Token.Tokens
import CanvasExport.Proofs.Dict
import CanvasExport.Proofs.Tokens
import CanvasExport.Proofs.Resolver
import CanvasExport.Proofs.Walk
import CanvasExport.Proofs.Export
import CanvasExport.Proofs.Decimal
import CanvasExport.Proofs.Spacing
import CanvasExport.Proofs.Footprint
import CanvasExport.Proofs.Representation
import CanvasExport.Proofs.Fault
import CanvasExport.Proofs.Session
import CanvasExport.Proofs.CustomColors
import CanvasExport.Proofs.Rounding
import CanvasExport.Proofs.JsonText
import CanvasExport.Proofs.Numeral
import CanvasExport.Proofs.Record
import CanvasExport.Proofs.ArtifactText
import CanvasExport.Proofs.DocumentText
import CanvasExport.Proofs.Extension
import CanvasExport.Proofs.Presets
import CanvasExport.Proofs.Concatenation
import CanvasExport.Proofs.Pruning
import CanvasExport.Proofs.NumberText
import CanvasExport.Proofs.Spelling
import CanvasExport.Proofs.Registry
import CanvasExport.Proofs.Props
import CanvasExport.Proofs.Schema
import CanvasExport.Proofs.CompactText
import CanvasExport.Proofs.Runs
import CanvasExport.Proofs.JsonGrammar
import CanvasExport.Proofs.Arrangement
import CanvasExport.Proofs.Respelling
import CanvasExport.Proofs.Declarations
import CanvasExport.Proofs.Expansion
import CanvasExport.Proofs.Shortest
import CanvasExport.Proofs.Exact
import CanvasExport.Proofs.Lengths
import CanvasExport.Proofs.LetterCase
import CanvasExport.Proofs.Pieces
import CanvasExport.Proofs.Nearest
import CanvasExport.Proofs.ColorPlaces
import CanvasExport.Proofs.FunctionalColor
import CanvasExport.Proofs.HexColor
import CanvasExport.Proofs.Backgrounds
import CanvasExport.Proofs.Templates
import CanvasExport.Proofs.PageSearch
import CanvasExport.Proofs.Interruption
import CanvasExport.Proofs.PropsText
import CanvasExport.Proofs.WholePixels
import CanvasExport.Proofs.Spans
