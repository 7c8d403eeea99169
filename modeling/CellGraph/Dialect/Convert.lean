import CellGraph.Dialect.Percent
import CellGraph.Dialect.Sum

/-!
# Conversion to the modelling dialect

A formula passes through six steps in a fixed order: percentages, `SUMPRODUCT`, `AVERAGE`, sums,
`LN` and `PV`. Each step sees what the steps before it made. The report names every function
that is left somewhere, once, in the order in which the steps met it.
-/

namespace CellGraph

inductive Step where
  | percentages
  | sumproduct
  | average
  | sums
  | ln
  | pv
  deriving DecidableEq, Repr

namespace Step

def all : List Step := [.percentages, .sumproduct, .average, .sums, .ln, .pv]

/-- What a step makes of a formula. -/
def run : Step → List Node → Except NumberError Expansion
  | .percentages, ns => (Percent.foldAll ns).map .of
  | .sumproduct, ns => .ok (Inline.inline "SUMPRODUCT" Inline.sumproduct ns)
  | .average, ns => .ok (Inline.inline "AVERAGE" Inline.average ns)
  | .sums, ns => .ok (Sum.inline ns)
  | .ln, ns => .ok (Inline.inline "LN" Inline.ln ns)
  | .pv, ns => .ok (Inline.inline "PV" Inline.pv ns)

/-- Runs steps one after another and joins their reports. -/
def runAll : List Step → List Node → Except NumberError Expansion
  | [], ns => .ok (.of ns)
  | step :: steps, ns => do
    let first ← step.run ns
    let rest ← runAll steps first.nodes
    return ⟨rest.nodes, first.unresolved ++ rest.unresolved⟩

end Step

namespace Dialect

/-- The formula tree in the dialect, and the functions left in it. -/
def convertTree (ns : List Node) : Except NumberError Expansion := do
  let result ← Step.runAll Step.all ns
  return ⟨result.nodes, result.unresolved.eraseDups⟩

structure Converted where
  formula : Text
  unresolved : List Text
  deriving DecidableEq, Repr

/-- Converts a formula. The only failure is a number with more percent signs than a power of
a hundred may have. -/
def convert (formula : Text) : Except NumberError Converted := do
  let result ← convertTree (Parser.parse formula)
  return ⟨Node.textAll result.nodes, result.unresolved⟩

end Dialect
end CellGraph
