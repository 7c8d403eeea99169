import CellGraph.Expr.Tree

/-!
# Reading formulas

A formula is read in one pass over its tokens. The state is the stack of brackets that are open,
each with the nodes that stood before it, and the nodes read since the innermost one opened; all
lists of nodes are kept in reverse. A closing parenthesis closes the innermost bracket, and
a comma starts a new argument exactly when that bracket is a call. Reading never fails: what is
still open at the end becomes an open node.
-/

namespace CellGraph.Parser

/-- An open bracket: the nodes before it, and for a call its name and the arguments that are
complete. -/
inductive Frame where
  | group (before : List Node)
  | call (before : List Node) (name : Text) (args : List (List Node))

/-- The node of a bracket whose last nodes are given, and the nodes before it. -/
def Frame.finish (closed : Bool) (now : List Node) : Frame → List Node
  | .group before => .group now.reverse closed :: before
  | .call before name args => .call name (now.reverse :: args).reverse closed :: before

/-- What is open at the end of a formula is closed without a parenthesis. -/
def finishAll : List Frame → List Node → List Node
  | [], now => now.reverse
  | frame :: frames, now => finishAll frames (frame.finish false now)

def run : List Token → List Frame → List Node → List Node
  | [], frames, now => finishAll frames now
  | .ref a :: .colon :: .ref b :: ts, frames, now => run ts frames (.range a b :: now)
  | .ref r :: ts, frames, now => run ts frames (.ref r :: now)
  | .func name :: .lparen :: ts, frames, now => run ts (.call now name [] :: frames) []
  | .lparen :: ts, frames, now => run ts (.group now :: frames) []
  | .rparen :: ts, frame :: frames, now => run ts frames (frame.finish true now)
  | .comma :: ts, .call before name args :: frames, now =>
    run ts (.call before name (now.reverse :: args) :: frames) []
  | t :: ts, frames, now => run ts frames (.leaf t :: now)

/-- The tree of a sequence of tokens. -/
def ofTokens (ts : List Token) : List Node := run ts [] []

def parse (formula : Text) : List Node := ofTokens (Token.tokens formula)

end CellGraph.Parser
