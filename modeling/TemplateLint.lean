import TemplateLint.Text.Utf8
import TemplateLint.Report.Record
import TemplateLint.Json.Reader
import TemplateLint.Config.Reader
import TemplateLint.Method.Store
import TemplateLint.Source.Edit
import TemplateLint.Source.Window
import TemplateLint.Command.FileTree
import TemplateLint.Command.Run
import TemplateLint.Main
import TemplateLint.Proofs.Basic
import TemplateLint.Proofs.Literal.Units
import TemplateLint.Proofs.Literal.Mapping
import TemplateLint.Proofs.Template.Written
import TemplateLint.Proofs.Template.Grammar
import TemplateLint.Proofs.Template.Rendering
import TemplateLint.Proofs.Text.Part
import TemplateLint.Proofs.Text.Position
import TemplateLint.Proofs.Expr.Literal
import TemplateLint.Proofs.Source.Range
import TemplateLint.Proofs.Template.Place
import TemplateLint.Proofs.Call.Anchor
import TemplateLint.Proofs.Literal.Span
import TemplateLint.Proofs.Source.Location
import TemplateLint.Proofs.Source.Move
import TemplateLint.Proofs.Call.Misplaced
import TemplateLint.Proofs.Call.Reading
import TemplateLint.Proofs.Call.Moved
import TemplateLint.Proofs.Call.Ladder
import TemplateLint.Proofs.Call.Repair
import TemplateLint.Proofs.Source.Patch
import TemplateLint.Proofs.Source.Scanned
import TemplateLint.Proofs.Source.Reordered
import TemplateLint.Proofs.Source.Balance
import TemplateLint.Proofs.Source.Ending
import TemplateLint.Proofs.Source.Fitting
import TemplateLint.Proofs.Source.Head
import TemplateLint.Proofs.Source.Parsed
import TemplateLint.Proofs.Source.Masked
import TemplateLint.Proofs.Source.Frame
import TemplateLint.Proofs.Source.Slot
import TemplateLint.Proofs.Source.Reread
import TemplateLint.Proofs.Source.Nesting
import TemplateLint.Proofs.Source.Outermost
import TemplateLint.Proofs.Source.Hidden
import TemplateLint.Proofs.Source.Isolated
import TemplateLint.Proofs.Template.Matching
import TemplateLint.Proofs.Call.Clean
import TemplateLint.Proofs.Config.Named
import TemplateLint.Proofs.Config.Schema
import TemplateLint.Proofs.Expr.Printed
import TemplateLint.Proofs.Source.Requirement
import TemplateLint.Proofs.Expr.Folding
import TemplateLint.Proofs.Template.Stopping
import TemplateLint.Proofs.Command.Content
import TemplateLint.Proofs.Template.Overlong
import TemplateLint.Proofs.Command.Rewriting
import TemplateLint.Proofs.Command.Selection
import TemplateLint.Proofs.Command.Effect
import TemplateLint.Proofs.Literal.Spelling
import TemplateLint.Proofs.Call.Settling
import TemplateLint.Proofs.Source.Splitting
import TemplateLint.Proofs.Source.Substitution
import TemplateLint.Proofs.Source.Offset
import TemplateLint.Proofs.Call.Matched
import TemplateLint.Proofs.Template.Mismatches
import TemplateLint.Proofs.Call.Merged
import TemplateLint.Proofs.Call.Receiver
import TemplateLint.Proofs.Method.Grammar
import TemplateLint.Proofs.Text.Order
import TemplateLint.Proofs.Method.Registration
import TemplateLint.Proofs.Method.Sharing
import TemplateLint.Proofs.Config.Written
import TemplateLint.Proofs.Expr.Grammar
import TemplateLint.Proofs.Expr.Shifted
import TemplateLint.Proofs.Source.Labelled
import TemplateLint.Proofs.Literal.Bounds
import TemplateLint.Proofs.Declare.Derivation
import TemplateLint.Proofs.Source.Lookbehind
import TemplateLint.Proofs.Expr.Pattern
import TemplateLint.Proofs.Expr.Closing
import TemplateLint.Proofs.Text.LineSearch
import TemplateLint.Proofs.Declare.Enclosing
