import CellGraph.Diagram.Edges

/-!
# Flowcharts

The dependencies of a grid as a flowchart text: one line for each edge. A cell with a label is
declared once, on a line of its own before the first edge that names it.
-/

namespace CellGraph.Flowchart

def labelLimit : Nat := 40

/-- The characters that a label may hold. -/
def isSafe (c : Char) : Bool := c.isAlphanum || (" ,.-$%" : Text).contains c

/-- The label of a cell: its description, shortened, with an underscore for every character that
might end the label. -/
def label (description : Text) : Text :=
  (Text.shorten labelLimit description).map fun c => if isSafe c then c else '_'

/-- The label of the cell with a key. -/
def labelAt (g : Grid) (key : Text) : Text := label (((g.find? key).map (·.description)).getD [])

/-- The line that declares a cell, if it has a label and has not been seen. -/
def declaration (g : Grid) (seen : List Text) (key : Text) : List Text :=
  if seen.contains key || labelAt g key = [] then [] else [key ++ '[' :: labelAt g key ++ [']']]

/-- The lines for edges, given the cells that have been seen. -/
def lines (g : Grid) (seen : List Text) : List Edge → List Text
  | [] => []
  | e :: es =>
    declaration g seen e.source ++ declaration g (e.source :: seen) e.target ++
      (e.source ++ " --> " ++ e.target) :: lines g (e.target :: e.source :: seen) es

def ofGrid (g : Grid) : Text :=
  "graph LR" ++ (lines g [] (Edge.ofGrid g)).flatMap fun line => ("\n  " : Text) ++ line

end CellGraph.Flowchart
