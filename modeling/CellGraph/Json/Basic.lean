import CellGraph.Numeral.Binary64

/-!
# JSON values

Numbers keep the difference between integers of any size and binary numbers. The members of an
object keep their order.
-/

namespace CellGraph

inductive Json where
  | null
  | bool (b : Bool)
  | int (n : Int)
  | float (x : Binary64)
  | string (t : Text)
  | array (items : List Json)
  | object (members : List (Text × Json))
  deriving Repr, Inhabited

namespace Json

def strings (ts : List Text) : Json := .array (ts.map .string)

/-- A text, or `null` for none. -/
def ofOption : Option Text → Json
  | some t => .string t
  | none => .null

/-- The value of an object's member; of several with one name the last. -/
def member? (name : Text) : Json → Option Json
  | .object members => (members.reverse.find? (·.1 = name)).map (·.2)
  | _ => none

end Json
end CellGraph
