import SvgMarkup.Config.Lemmas
import SvgMarkup.Proofs.Config.Resolution
import SvgMarkup.Proofs.Diagnostic.AnnotatedForm
import SvgMarkup.Proofs.Diagnostic.Circumstance
import SvgMarkup.Proofs.Diagnostic.Excerpts
import SvgMarkup.Proofs.Diagnostic.ObjectForm
import SvgMarkup.Proofs.Entity.Lossless
import SvgMarkup.Proofs.Entity.Replacement
import SvgMarkup.Proofs.Layout.Bare
import SvgMarkup.Proofs.Layout.Lines
import SvgMarkup.Proofs.Nesting.Session
import SvgMarkup.Proofs.Reader.JsonObject
import SvgMarkup.Proofs.Reader.RoundTrip
import SvgMarkup.Proofs.Rendering.Composition
import SvgMarkup.Proofs.Rendering.Confinement
import SvgMarkup.Proofs.Rendering.Equality
import SvgMarkup.Proofs.Rendering.Fault
import SvgMarkup.Proofs.Rendering.Grouping
import SvgMarkup.Proofs.Rendering.Influence
import SvgMarkup.Proofs.Rendering.Leniency
import SvgMarkup.Proofs.Tree.Construction
import SvgMarkup.Tree.Construction
