import CellGraph.Text.Basic

/-!
# Grids

The cells of all sheets in one plane, each under its own key. The order of the cells is the order
in which their keys came first; a later cell with the same key takes the place of the earlier one.
-/

namespace CellGraph

/-- A cell of a grid. A cell has a value or a description, or neither; the row and the column
count from 1 over the whole plane. `unresolved` names functions left in the formula. -/
structure Cell where
  key : Text
  value : Text
  description : Text
  formula : Text
  row : Int
  column : Int
  unresolved : List Text
  deriving DecidableEq, Repr, Inhabited

/-- Cells in order, and the names of the sheets they came from. -/
structure Grid where
  cells : List Cell
  sheetNames : List Text
  deriving DecidableEq, Repr, Inhabited

namespace Grid

def empty (sheetNames : List Text) : Grid := ⟨[], sheetNames⟩

/-- Cells with one more: in the place of the cell with its key, or else at the end. -/
def putCell (c : Cell) : List Cell → List Cell
  | [] => [c]
  | d :: ds => if d.key = c.key then c :: ds else d :: putCell c ds

def put (g : Grid) (c : Cell) : Grid := { g with cells := putCell c g.cells }

def erase (g : Grid) (key : Text) : Grid := { g with cells := g.cells.filter (·.key ≠ key) }

/-- The grid of cells put in one after another. -/
def ofCells (sheetNames : List Text) (cells : List Cell) : Grid :=
  cells.foldl put (empty sheetNames)

def keys (g : Grid) : List Text := g.cells.map (·.key)

def find? (g : Grid) (key : Text) : Option Cell := g.cells.find? (·.key = key)

/-- The cells with functions left in their formulas. -/
def unresolved (g : Grid) : List Cell := g.cells.filter fun c => !c.unresolved.isEmpty

theorem keys_putCell (c : Cell) (cells : List Cell) :
    (putCell c cells).map (·.key) =
      if c.key ∈ cells.map (·.key) then cells.map (·.key) else cells.map (·.key) ++ [c.key] := by
  induction cells with
  | nil => simp [putCell]
  | cons d ds ih =>
    by_cases same : d.key = c.key
    · simp [putCell, same]
    · simp only [putCell, same, if_false, List.map_cons, ih, List.mem_cons, Ne.symm same, false_or]
      split <;> rfl

theorem nodup_keys_put {g : Grid} (h : g.keys.Nodup) (c : Cell) : (g.put c).keys.Nodup := by
  simp only [keys, put, keys_putCell]
  split
  · exact h
  · next absent =>
    rw [List.nodup_append]
    refine ⟨h, by simp, ?_⟩
    intro a inKeys b isNew
    simp only [List.mem_singleton] at isNew
    rintro rfl
    exact absent (isNew ▸ inKeys)

end Grid
end CellGraph
