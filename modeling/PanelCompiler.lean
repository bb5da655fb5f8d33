import PanelCompiler.Panel.Compile
import PanelCompiler.Stylesheet.Layout
import PanelCompiler.Proofs.Directive.LoopBody
import PanelCompiler.Proofs.Stylesheet.Pretty
import PanelCompiler.Proofs.Tree.RoundTrip
import PanelCompiler.Proofs.Value.Expression
import PanelCompiler.Proofs.Walk.Balance
import PanelCompiler.Proofs.Walk.Components
import PanelCompiler.Proofs.Walk.DataMethods
import PanelCompiler.Proofs.Walk.ErrorPaths
import PanelCompiler.Proofs.Walk.Independence
import PanelCompiler.Proofs.Walk.Leniency
import PanelCompiler.Proofs.Walk.Literals
import PanelCompiler.Proofs.Walk.Names
import PanelCompiler.Proofs.Walk.Nesting
import PanelCompiler.Proofs.Walk.Pruning
import PanelCompiler.Proofs.Walk.ReportOrder
import PanelCompiler.Proofs.Walk.Styles
import PanelCompiler.Proofs.Walk.Validity
import PanelCompiler.Proofs.Stylesheet.Steps
import PanelCompiler.Proofs.Stylesheet.Visible
import PanelCompiler.Proofs.Stylesheet.Rereading
import PanelCompiler.Proofs.Walk.Payload
import PanelCompiler.Proofs.Directive.Operand
import PanelCompiler.Proofs.Style.Responsive
import PanelCompiler.Proofs.Stylesheet.Faults
import PanelCompiler.Proofs.Text.Quoted
import PanelCompiler.Proofs.Value.Serialize
import PanelCompiler.Proofs.Value.TaggedFunction
import PanelCompiler.Proofs.Value.OneTemplate
import PanelCompiler.Proofs.Value.FunctionForm
import PanelCompiler.Proofs.Script.Reemission
import PanelCompiler.Proofs.Panel.Formatting
import PanelCompiler.Proofs.Walk.Attributes
import PanelCompiler.Proofs.Walk.References
import PanelCompiler.Proofs.Style.Hyphenation
import PanelCompiler.Proofs.Directive.Unqualified
import PanelCompiler.Proofs.Stylesheet.Literals
