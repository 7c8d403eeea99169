import CellGraph.Expr.Tree
import CellGraph.Numeral.Notation
import CellGraph.Numeral.Error

/-!
# Percentages

The modelling dialect has no percent sign: a number with percent signs directly behind it becomes
the number divided by a hundred for each of them. All other percent signs stay.
-/

namespace CellGraph.Percent

/-- Whether a node is a percent sign. -/
def isSign : Node → Bool
  | .leaf (.op ['%']) => true
  | _ => false

/-- The text of a number divided by a hundred `signs` times. The power of a hundred is one
integer, so that there is one rounding for it and one for the division. -/
def quotient (number : Text) (signs : Nat) : Except NumberError Text :=
  match Binary64.ofInt? (Nat.pow 100 signs) with
  | none => .error .tooLarge
  | some scale => .ok (((Binary64.read? number).getD .nan).div scale).plainText

/-- Folds the percent signs of one sequence. `behind` says that the signs at its start belong to
a number already folded. -/
def fold (behind : Bool) : List Node → Except NumberError (List Node)
  | [] => .ok []
  | n :: ns =>
    if behind && isSign n then fold true ns
    else match n, (ns.takeWhile isSign).length with
      | .leaf (.number t), signs + 1 => do
        let value ← quotient t (signs + 1)
        let rest ← fold true ns
        return .leaf (.number value) :: rest
      | _, _ => do
        let rest ← fold false ns
        return n :: rest

mutual

def inside : Node → Except NumberError Node
  | .group body closed => do
    let body ← insideAll body
    let body ← fold false body
    return .group body closed
  | .call name args closed => do
    let args ← insideArgs args
    return .call name args closed
  | n => .ok n

/-- Folds percentages inside every node of a sequence. -/
def insideAll : List Node → Except NumberError (List Node)
  | [] => .ok []
  | n :: ns => do
    let n ← inside n
    let ns ← insideAll ns
    return n :: ns

def insideArgs : List (List Node) → Except NumberError (List (List Node))
  | [] => .ok []
  | arg :: args => do
    let arg ← insideAll arg
    let arg ← fold false arg
    let args ← insideArgs args
    return arg :: args

end

def foldAll (ns : List Node) : Except NumberError (List Node) := do
  let ns ← insideAll ns
  fold false ns

end CellGraph.Percent
