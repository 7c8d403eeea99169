import CellGraph.Diagram.Edges
import CellGraph.Json.Basic

/-!
# Networks

The dependencies of a grid as a network with every cell as a node, and the interactive page that
shows it. The edges of a network are ordered by their source. The page lists the ends of the edges
first and then the nodes without edges.
-/

namespace CellGraph

/-- Edges by their source in the order of keys, and those from one source as they come. -/
def Edge.bySource (keys : List Text) (edges : List Edge) : List Edge :=
  keys.flatMap fun key => edges.filter (·.source = key)

structure NetworkNode where
  key : Text
  label : Text
  title : Text
  deriving DecidableEq, Repr, Inhabited

structure Network where
  nodes : List NetworkNode
  edges : List Edge
  deriving DecidableEq, Repr, Inhabited

/-- An interactive page: the height of its drawing, its nodes and edges, and whether it loads
itself again when a new workbook is converted. -/
structure NetworkPage where
  height : Text
  nodes : List NetworkNode
  edges : List Edge
  reloads : Bool
  deriving DecidableEq, Repr, Inhabited

namespace Network

/-- The first of two texts that is not empty. -/
def orElse (a b : Text) : Text := if a = [] then b else a

/-- The node of a cell: its description or key, and what it holds. -/
def nodeOf (c : Cell) : NetworkNode :=
  ⟨c.key, orElse c.description c.key, orElse c.formula (orElse c.value c.description)⟩

def ofGrid (g : Grid) : Network where
  nodes := g.cells.map nodeOf
  edges := Edge.bySource g.keys (Edge.ofGrid g)

/-- The keys of the nodes as the page lists them. -/
def pageOrder (n : Network) : List Text :=
  (n.edges.flatMap (fun e => [e.source, e.target]) ++ n.nodes.map (·.key)).eraseDups

/-- The nodes as the page lists them. -/
def drawn (n : Network) : List NetworkNode :=
  n.pageOrder.filterMap fun key => n.nodes.find? (·.key = key)

/-- The height of a page's drawing, unless another is asked for. -/
def pageHeight : Text := "750px"

def page (g : Grid) (height : Text) : NetworkPage :=
  let n := ofGrid g
  ⟨height, n.drawn, n.edges, false⟩

end Network

namespace NetworkPage

/-- A node as the drawing library takes it. -/
def nodeJson (n : NetworkNode) : Json := .object [
  ("color", .string "#97c2fc"), ("font", .object [("color", .string "#000000")]),
  ("id", .string n.key), ("label", .string n.label), ("shape", .string "dot"),
  ("size", .int 20), ("title", .string n.title)]

/-- An edge as the drawing library takes it. -/
def edgeJson (e : Edge) : Json := .object [
  ("arrows", .string "to"), ("from", .string e.source), ("to", .string e.target),
  ("width", .int 1)]

def nodesJson (p : NetworkPage) : Json := .array (p.nodes.map nodeJson)

def edgesJson (p : NetworkPage) : Json := .array (p.edges.map edgeJson)

end NetworkPage
end CellGraph
