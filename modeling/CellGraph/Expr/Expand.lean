import CellGraph.Expr.Tree

/-!
# Expanding nodes

A change of a tree from the leaves up: each node, its inner sequences already changed, is
replaced by nodes of a sequence, and may report what could not be done.
-/

namespace CellGraph

/-- The nodes that stand for a node, and the names of calls left as they are. -/
structure Expansion where
  nodes : List Node
  unresolved : List Text

namespace Expansion

def keep (n : Node) : Expansion := ⟨[n], []⟩

def of (ns : List Node) : Expansion := ⟨ns, []⟩

/-- A node that stays although it should not. -/
def refuse (n : Node) (name : Text) : Expansion := ⟨[n], [name]⟩

end Expansion

namespace Node

mutual

/-- Expands the inside of a node, then the node itself. -/
def expand (f : Node → Expansion) : Node → Expansion
  | .group body closed =>
    let inner := expandAll f body
    let outer := f (.group inner.nodes closed)
    ⟨outer.nodes, inner.unresolved ++ outer.unresolved⟩
  | .call name args closed =>
    let inner := expandArgs f args
    let outer := f (.call name inner.1 closed)
    ⟨outer.nodes, inner.2 ++ outer.unresolved⟩
  | n => f n

def expandAll (f : Node → Expansion) : List Node → Expansion
  | [] => ⟨[], []⟩
  | n :: ns =>
    let first := expand f n
    let rest := expandAll f ns
    ⟨first.nodes ++ rest.nodes, first.unresolved ++ rest.unresolved⟩

def expandArgs (f : Node → Expansion) : List (List Node) → List (List Node) × List Text
  | [] => ([], [])
  | arg :: args =>
    let first := expandAll f arg
    let rest := expandArgs f args
    (first.nodes :: rest.1, first.unresolved ++ rest.2)

end

end Node
end CellGraph
