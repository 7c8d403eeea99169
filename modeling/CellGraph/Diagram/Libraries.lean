import CellGraph.Diagram.Network

/-!
# Libraries for networks

The network of a grid is made with a library of graphs, and its page with a library that draws them.
Of each only a few operations are used, and what these do is said in laws. `Network` takes the place
of both libraries.
-/

namespace CellGraph

/-- What is used of a library of graphs: nodes and edges are put into a graph, and are listed. -/
class GraphLibrary (G : Type) where
  empty : G
  addNode (n : G) (x : NetworkNode) : G
  addEdge (n : G) (e : Edge) : G
  nodes : G → List NetworkNode
  edges : G → List Edge

namespace GraphLibrary
variable {G : Type} [GraphLibrary G]

def keys (n : G) : List Text := (nodes n).map (·.key)

/-- The ends of all edges, edge by edge. -/
def ends (n : G) : List Text := (edges n).flatMap fun e => [e.source, e.target]

/-- The keys of the nodes that no edge meets. -/
def isolated (n : G) : List Text := (keys n).removeAll (ends n)

/-- Every edge leads from a node to a node. -/
def Closed (n : G) : Prop := ∀ key ∈ ends n, key ∈ keys n

/-- The network of a grid: every cell as a node, and then the edges. -/
def ofGrid (G : Type) [GraphLibrary G] (g : Grid) : G :=
  (Edge.ofGrid g).foldl addEdge ((g.cells.map Network.nodeOf).foldl addNode empty)

end GraphLibrary

open GraphLibrary in
/-- What a library of graphs does with new nodes and with new edges between nodes. -/
class LawfulGraphLibrary (G : Type) [GraphLibrary G] : Prop where
  nodes_empty : nodes (empty : G) = []
  edges_empty : edges (empty : G) = []
  /-- Nodes are listed in the order in which they are put in. -/
  nodes_addNode (n : G) (x : NetworkNode) (new : x.key ∉ keys n) :
    nodes (addNode n x) = nodes n ++ [x]
  edges_addNode (n : G) (x : NetworkNode) (new : x.key ∉ keys n) : edges (addNode n x) = edges n
  nodes_addEdge (n : G) (e : Edge) (source : e.source ∈ keys n) (target : e.target ∈ keys n) :
    nodes (addEdge n e) = nodes n
  /-- Edges are listed by their source in the order of the nodes, and then in the order in which
  they are put in. -/
  edges_addEdge (n : G) (e : Edge) (source : e.source ∈ keys n) (target : e.target ∈ keys n)
    (new : e ∉ edges n) : edges (addEdge n e) = Edge.bySource (keys n) (edges n ++ [e])

/-- What is used of a library that draws graphs: the nodes and edges of a drawing. -/
class PageLibrary (G : Type) where
  drawnNodes : G → List NetworkNode
  drawnEdges : G → List Edge

open GraphLibrary PageLibrary in
/-- What a drawing shows of a graph. -/
class LawfulPageLibrary (G : Type) [GraphLibrary G] [PageLibrary G] : Prop where
  mem_drawnNodes (n : G) (x : NetworkNode) (shown : x ∈ drawnNodes n) : x ∈ nodes n
  /-- The ends of the edges are drawn as they come, and then the nodes that no edge meets; what is
  drawn already is skipped. -/
  keys_drawnNodes (n : G) (closed : Closed n) :
    (drawnNodes n).map (·.key) = (ends n ++ isolated n).eraseDups
  drawnEdges_eq (n : G) : drawnEdges n = edges n

/-- The page of a graph. -/
def PageLibrary.page {G : Type} [PageLibrary G] (height : Text) (n : G) : NetworkPage :=
  ⟨height, drawnNodes n, drawnEdges n, false⟩

namespace Network

/-- A node in the place of one with its key, or behind all others. -/
def addNode (n : Network) (x : NetworkNode) : Network :=
  if n.nodes.any (·.key = x.key) then
    { n with nodes := n.nodes.map fun y => if y.key = x.key then x else y }
  else { n with nodes := n.nodes ++ [x] }

def addEdge (n : Network) (e : Edge) : Network :=
  if e ∈ n.edges then n
  else { n with edges := Edge.bySource (n.nodes.map (·.key)) (n.edges ++ [e]) }

instance : GraphLibrary Network where
  empty := ⟨[], []⟩
  addNode := addNode
  addEdge := addEdge
  nodes := nodes
  edges := edges

instance : PageLibrary Network := ⟨drawn, edges⟩

end Network
end CellGraph
