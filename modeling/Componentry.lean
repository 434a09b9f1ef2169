import Componentry.Command.Arguments
import Componentry.Command.Run
import Componentry.Component.Body
import Componentry.Component.Module
import Componentry.Component.Parts
import Componentry.Component.Piece
import Componentry.Component.Setup
import Componentry.Component.Usage
import Componentry.Document.Basic
import Componentry.Document.Dump
import Componentry.Document.Outline
import Componentry.Expression
import Componentry.Lowering
import Componentry.Main
import Componentry.Markup.Program
import Componentry.Markup.Tree
import Componentry.Project.Build
import Componentry.Project.Disk
import Componentry.Project.Path
import Componentry.Project.Report
import Componentry.Project.Settings
import Componentry.Proofs.Document.Nesting
import Componentry.ReservedTag
import Componentry.Route
import Componentry.Script.Exports
import Componentry.Script.Fault
import Componentry.Script.Grammar.Basic
import Componentry.Script.Grammar.Class
import Componentry.Script.Grammar.Declaration
import Componentry.Script.Grammar.Expression
import Componentry.Script.Grammar.Function
import Componentry.Script.Grammar.Markup
import Componentry.Script.Grammar.Modifier
import Componentry.Script.Grammar.Operator
import Componentry.Script.Grammar.Passage
import Componentry.Script.Grammar.Statement
import Componentry.Script.Grammar.Target
import Componentry.Script.Literal
import Componentry.Script.Module
import Componentry.Script.Reading
import Componentry.Script.Scan
import Componentry.Script.Term
import Componentry.Script.Token
import Componentry.Text.Blank
import Componentry.Text.Capital
import Componentry.Text.Letter
import Componentry.Text.Position
import Componentry.Text.Ranges
import Componentry.Text.Word
import Componentry.Toml.Document
import Componentry.Toml.Lexical
import Componentry.Toml.Scalar
import Componentry.Toml.Table
import Componentry.Value
import Componentry.Warning
import Componentry.Proofs.Component.Rendering
import Componentry.Proofs.Component.Usage
import Componentry.Proofs.Component.Generation
import Componentry.Proofs.Component.ModuleText
import Componentry.Proofs.Component.HooksAndSlots
import Componentry.Proofs.Component.Setters
import Componentry.Proofs.Route.Matching
import Componentry.Proofs.Document.Depth
import Componentry.Proofs.Text.Layout
import Componentry.Proofs.Script.Names
import Componentry.Proofs.Script.Scanning
import Componentry.Proofs.Script.Stepping
import Componentry.Proofs.Script.Operands
import Componentry.Proofs.Script.Statements
import Componentry.Proofs.Lowering.Reach
import Componentry.Proofs.Text.Quoted
import Componentry.Proofs.Lowering.Regularity
import Componentry.Proofs.Lowering.SlotContent
import Componentry.Proofs.Lowering.Leaves
import Componentry.Proofs.Component.RouteTest
import Componentry.Proofs.Component.Imports
import Componentry.Proofs.Component.Erasure
import Componentry.Proofs.Lowering.Relaid
import Componentry.Proofs.Markup.Attributes
import Componentry.Proofs.Markup.Elements
import Componentry.Proofs.Markup.FirstTag
import Componentry.Proofs.Markup.RoundTrip
import Componentry.Proofs.Component.Dumped
import Componentry.Proofs.Project.Places
import Componentry.Proofs.Project.Slots
import Componentry.Proofs.Project.Listing
import Componentry.Proofs.Project.Outcomes
import Componentry.Proofs.Project.Stages
import Componentry.Proofs.Project.Rebuild
import Componentry.Proofs.Project.Isolation
import Componentry.Proofs.Project.Frame
import Componentry.Proofs.Project.Registry
import Componentry.Proofs.Component.StateForms
import Componentry.Proofs.Component.Identifiers
import Componentry.Proofs.Lowering.ControlAttributes
import Componentry.Proofs.Text.Spacing
import Componentry.Proofs.Lowering.FirstWins
import Componentry.Proofs.Component.SelfReference
import Componentry.Proofs.Route.Repeated
import Componentry.Proofs.Component.Gathering
import Componentry.Proofs.Component.Failures
import Componentry.Proofs.Text.Brackets
import Componentry.Proofs.Component.Bracketing
import Componentry.Proofs.Text.Position
import Componentry.Proofs.Component.Literals
