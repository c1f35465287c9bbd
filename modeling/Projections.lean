import Projections.Main
import Projections.Proofs.Include.Fields
import Projections.Proofs.Language.Parsing
import Projections.Proofs.Language.Weight
import Projections.Proofs.Selector.Composition
import Projections.Proofs.Selector.Pruning
import Projections.Query.Session
import Projections.Proofs.Document.Naming
import Projections.Proofs.Document.Repetition
import Projections.Proofs.Include.Registration
import Projections.Proofs.Query.Session
import Projections.Proofs.Document.Insertion
import Projections.Proofs.Document.Rendering
import Projections.Proofs.Include.Acceptance
import Projections.Proofs.Row.Conversion
import Projections.Proofs.Document.Declaration
import Projections.Proofs.Include.Union
import Projections.Proofs.Selector.Coverage
import Projections.Proofs.Selector.Shorthand
import Projections.Proofs.Selector.Arithmetic
import Projections.Proofs.Selector.Ordering
import Projections.Proofs.Command.Run
import Projections.Proofs.Selector.Arity
import Projections.Proofs.Selector.Extremes
import Projections.Proofs.Language.Respacing
import Projections.Proofs.Selector.Hygiene
