import CellGraph.Expr.Token

/-!
# Formula trees

Only the shapes that matter for inlining are structured: calls, parenthesised groups, references
and ranges. Every other token stays a leaf, so a tree has a text of its own and a formula is the
text of its tree. A bracket that the formula never closes is kept as an open node.
-/

namespace CellGraph

/-- A node of a formula tree. A call has one sequence of nodes for each argument, and at least
one argument; `closed` says whether its parenthesis is. -/
inductive Node where
  | leaf (t : Token)
  | ref (r : Ref)
  | range (first last : Ref)
  | group (body : List Node) (closed : Bool)
  | call (name : Text) (args : List (List Node)) (closed : Bool)
  deriving Repr, Inhabited

namespace Node

/-- The closing parenthesis of a bracket, if it is there. -/
def closing (closed : Bool) : Text := if closed then [')'] else []

/-! ## Texts -/

mutual

/-- The text of a node, with references and ranges written by the given functions. -/
def write (ref : Ref → Text) (range : Ref → Ref → Text) : Node → Text
  | .leaf t => t.text
  | .ref r => ref r
  | .range a b => range a b
  | .group body closed => '(' :: writeAll ref range body ++ closing closed
  | .call name args closed => name ++ '(' :: writeArgs ref range args ++ closing closed

/-- The texts of nodes one after another. -/
def writeAll (ref : Ref → Text) (range : Ref → Ref → Text) : List Node → Text
  | [] => []
  | n :: ns => write ref range n ++ writeAll ref range ns

/-- The texts of arguments, with commas between them. -/
def writeArgs (ref : Ref → Text) (range : Ref → Ref → Text) : List (List Node) → Text
  | [] => []
  | [arg] => writeAll ref range arg
  | arg :: args => writeAll ref range arg ++ ',' :: writeArgs ref range args

end

/-- A range as written: its two ends around a colon. -/
def rangeText (first last : Ref) : Text := first.text ++ ':' :: last.text

/-- The text of a node as written. -/
def text (n : Node) : Text := n.write Ref.text rangeText

/-- The text of a sequence of nodes as written. -/
def textAll (ns : List Node) : Text := writeAll Ref.text rangeText ns

theorem writeAll_append (ref : Ref → Text) (range : Ref → Ref → Text) (ms ns : List Node) :
    writeAll ref range (ms ++ ns) = writeAll ref range ms ++ writeAll ref range ns := by
  induction ms with
  | nil => rfl
  | cons m ms ih => simp [writeAll, ih]

theorem textAll_append (ms ns : List Node) : textAll (ms ++ ns) = textAll ms ++ textAll ns :=
  writeAll_append _ _ ms ns

/-! ## Traversal -/

mutual

/-- A node and all nodes inside it, each before those inside itself. -/
def walk : Node → List Node
  | .group body closed => .group body closed :: walkAll body
  | .call name args closed => .call name args closed :: walkArgs args
  | n => [n]

/-- All nodes of a sequence and inside it, in order. -/
def walkAll : List Node → List Node
  | [] => []
  | n :: ns => walk n ++ walkAll ns

/-- All nodes of arguments and inside them, in order. -/
def walkArgs : List (List Node) → List Node
  | [] => []
  | arg :: args => walkAll arg ++ walkArgs args

end

/-! ## Arguments -/

def isSpace : Node → Bool
  | .leaf (.space _) => true
  | _ => false

/-- The nodes of a sequence without white space. -/
def solid (ns : List Node) : List Node := ns.filter fun n => !n.isSpace

/-- The node of a sequence that holds exactly one apart from white space. -/
def sole? (ns : List Node) : Option Node :=
  match solid ns with
  | [n] => some n
  | _ => none

/-- The arguments of a call; a single blank argument is no argument. -/
def arguments : List (List Node) → List (List Node)
  | [arg] => if solid arg = [] then [] else [arg]
  | args => args

end Node
end CellGraph
