import CellGraph.Grid.Basic
import CellGraph.Json.Basic

/-!
# Models

A model has one metric and one estimate for each cell of a grid, in the order of the grid. The
metric says where the cell stands and how it is called, the estimate what it is worth.
-/

namespace CellGraph

/-- A named place of a model. Rows and columns count from zero. -/
structure Metric where
  id : Text
  name : Text
  row : Int
  column : Int
  deriving DecidableEq, Repr, Inhabited

/-- What a metric is worth: a function of other metrics, or a point. -/
structure Estimate where
  metric : Text
  expression : Text
  isFunction : Bool
  description : Text
  deriving DecidableEq, Repr, Inhabited

structure Model where
  metrics : List Metric
  estimates : List Estimate
  deriving DecidableEq, Repr, Inhabited

namespace Model

/-- The most characters that the name of a metric with a value has. -/
def nameLimit : Nat := 20

/-- Whether the label of a cell is too long for a name. -/
def isLong (c : Cell) : Bool := nameLimit < c.description.length && c.value ≠ []

def metricOf (c : Cell) : Metric where
  id := c.key
  name := if isLong c then Text.shorten nameLimit c.description else c.description
  row := c.row - 1
  column := c.column - 1

/-- The estimate of a cell; it keeps a label that is too long for a name. -/
def estimateOf (c : Cell) : Estimate where
  metric := c.key
  expression := if c.formula = [] then c.value else c.formula
  isFunction := c.formula ≠ []
  description := if isLong c then c.description else []

def ofGrid (g : Grid) : Model := ⟨g.cells.map metricOf, g.cells.map estimateOf⟩

def metricJson (m : Metric) : Json := .object [
  ("id", .string m.id), ("readableId", .string m.id), ("name", .string m.name),
  ("location", .object [("row", .int m.row), ("column", .int m.column)])]

def estimateJson (e : Estimate) : Json := .object [
  ("metric", .string e.metric), ("input", .null), ("expression", .string e.expression),
  ("guesstimateType", .string (if e.isFunction then "FUNCTION" else "POINT")),
  ("description", .string e.description)]

/-- The request that replaces the contents of a model space. -/
def payload (m : Model) : Json := .object [("space", .object [("graph", .object [
  ("metrics", .array (m.metrics.map metricJson)),
  ("guesstimates", .array (m.estimates.map estimateJson))])])]

end Model
end CellGraph
