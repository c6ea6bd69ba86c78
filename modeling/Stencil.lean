import Stencil.Calendar.Basic
import Stencil.Calendar.Iso
import Stencil.Calendar.Written
import Stencil.Card.Basic
import Stencil.Card.Site
import Stencil.CommandLine.Request
import Stencil.CommandLine.Response
import Stencil.CommandLine.Task
import Stencil.CommandLine.Usage
import Stencil.Config.Loader
import Stencil.Config.Reference
import Stencil.Config.Scalar
import Stencil.Config.Settings
import Stencil.Console.Frame
import Stencil.Console.Line
import Stencil.Double.Basic
import Stencil.Double.Decimal
import Stencil.Engine.Basic
import Stencil.Engine.Batch
import Stencil.Engine.Cache
import Stencil.Engine.Logging
import Stencil.Engine.Session
import Stencil.Expression.Argument
import Stencil.Expression.Tokens
import Stencil.Fault
import Stencil.Files.Glob
import Stencil.Files.Location
import Stencil.Files.Tree
import Stencil.Helper.Basic
import Stencil.Helper.Builtins
import Stencil.Helper.Comparison
import Stencil.Helper.Manual
import Stencil.Helper.Texts
import Stencil.Html.Escape
import Stencil.Json.Reader
import Stencil.Json.Writer
import Stencil.Main
import Stencil.Pattern.Basic
import Stencil.Pattern.Written
import Stencil.Proofs.Agreement
import Stencil.Proofs.Balance
import Stencil.Proofs.Batch
import Stencil.Proofs.Caching
import Stencil.Proofs.CardMarkup
import Stencil.Proofs.Checking
import Stencil.Proofs.Containment
import Stencil.Proofs.Course
import Stencil.Proofs.DateReaders
import Stencil.Proofs.Delimiters
import Stencil.Proofs.Dependence
import Stencil.Proofs.Diagnostics
import Stencil.Proofs.Endings
import Stencil.Proofs.Equality
import Stencil.Proofs.FilePages
import Stencil.Proofs.Lines
import Stencil.Proofs.Literals
import Stencil.Proofs.Lookup
import Stencil.Proofs.Markup
import Stencil.Proofs.Nesting
import Stencil.Proofs.Normalization
import Stencil.Proofs.Outcome
import Stencil.Proofs.Passes
import Stencil.Proofs.Paths
import Stencil.Proofs.Quotation
import Stencil.Proofs.Recovery
import Stencil.Proofs.References
import Stencil.Proofs.Refusal
import Stencil.Proofs.Registration
import Stencil.Proofs.Reordering
import Stencil.Proofs.Residue
import Stencil.Proofs.RoundTrip
import Stencil.Proofs.Rounding
import Stencil.Proofs.Scan
import Stencil.Proofs.Scoping
import Stencil.Proofs.Shape
import Stencil.Proofs.ShownDates
import Stencil.Proofs.Simulation
import Stencil.Proofs.SingleCall
import Stencil.Proofs.Spelling
import Stencil.Proofs.Splitting
import Stencil.Proofs.StagedCourse
import Stencil.Proofs.Stages
import Stencil.Proofs.Substitution
import Stencil.Proofs.TemplateFiles
import Stencil.Proofs.Trim
import Stencil.Proofs.UnknownNames
import Stencil.Proofs.Walk
import Stencil.Registry
import Stencil.Render.Course
import Stencil.Render.Evaluate
import Stencil.Render.InOrder
import Stencil.Render.Notice
import Stencil.Render.Scope
import Stencil.Render.Staged
import Stencil.Template.Blocks
import Stencil.Template.Node
import Stencil.Template.Segment
import Stencil.Template.Tag
import Stencil.Template.Variables
import Stencil.Text.Blank
import Stencil.Text.Casing
import Stencil.Text.Casing.Table
import Stencil.Text.Digit
import Stencil.Text.Edges
import Stencil.Text.Lines
import Stencil.Text.Printable
import Stencil.Text.Quoted
import Stencil.Text.Width
import Stencil.Text.Word
import Stencil.Validation.Basic
import Stencil.Validation.Report
import Stencil.Validation.Risk
import Stencil.Value.Basic
import Stencil.Value.Number
import Stencil.Value.Path
import Stencil.Value.Text
import Stencil.Yaml.Marks
import Stencil.Yaml.Plain
import Stencil.Yaml.Reader
import Stencil.Yaml.Scalar
