import CellGraph.Expr.Area
import CellGraph.Proofs.Expr.Tree

/-!
# Dependencies

The cells that a formula depends on: those that its references name and those that its ranges
cover, at any depth.
-/

namespace CellGraph

/-- The cell that a reference names: its sheet, if it names one, and its address. -/
def Ref.cell (r : Ref) : Option Text × Text := (r.sheet, r.address)

namespace Node

/-- The cells that a node names by itself: that of a reference, or those that a range covers. -/
def ownCells : Node → List (Option Text × Text)
  | .ref r => [r.cell]
  | .range a b => (Area.refs a b).map Ref.cell
  | _ => []

/-- The cells that a node and all nodes inside it name. -/
def cells (n : Node) : List (Option Text × Text) := (walk n).flatMap ownCells

/-- The cells that a sequence depends on. -/
def dependencies (ns : List Node) : List (Option Text × Text) := (walkAll ns).flatMap ownCells

@[simp] theorem dependencies_nil : dependencies [] = [] := rfl

@[simp] theorem dependencies_cons (n : Node) (ns : List Node) :
    dependencies (n :: ns) = n.cells ++ dependencies ns := by
  simp [dependencies, cells, walkAll]

@[simp] theorem dependencies_append (ms ns : List Node) :
    dependencies (ms ++ ns) = dependencies ms ++ dependencies ns := by
  induction ms with
  | nil => rfl
  | cons m ms ih => simp [ih]

@[simp] theorem cells_leaf (t : Token) : cells (.leaf t) = [] := rfl

@[simp] theorem cells_ref (r : Ref) : cells (.ref r) = [r.cell] := rfl

@[simp] theorem cells_range (a b : Ref) :
    cells (.range a b) = (Area.refs a b).map Ref.cell := by
  simp [cells, walk, ownCells]

@[simp] theorem cells_group (body : List Node) (closed : Bool) :
    cells (.group body closed) = dependencies body := by
  simp [cells, walk, ownCells, dependencies]

@[simp] theorem cells_call (name : Text) (args : List (List Node)) (closed : Bool) :
    cells (.call name args closed) = args.flatMap dependencies := by
  have inside : (walkArgs args).flatMap ownCells = args.flatMap dependencies := by
    induction args with
    | nil => rfl
    | cons arg args ih => simp [walkArgs, dependencies, ih]
  simp [cells, walk, ownCells, inside]

/-- White space names no cells. -/
theorem dependencies_solid (ns : List Node) : dependencies (solid ns) = dependencies ns := by
  induction ns with
  | nil => rfl
  | cons n ns ih =>
    cases space : n.isSpace with
    | false => simpa [solid, space] using ih
    | true =>
      cases n with
      | leaf t => simpa [solid, space] using ih
      | _ => cases space

theorem dependencies_of_range? {ns : List Node} {a b : Ref} (range : range? ns = some (a, b)) :
    dependencies ns = (Area.refs a b).map Ref.cell := by
  rw [← dependencies_solid, solid_of_range? range]
  simp

end Node
end CellGraph
