import CellGraph.Expr.Parser
import CellGraph.Text.CaseFold
import CellGraph.Text.Quoted

/-!
# Keys of cells

A model names each cell by a key. With one sheet the key is the address. With several sheets it
is the address behind the key of the sheet: the word characters of the sheet's name and an
exclamation mark. References find sheets whatever the letter case of their names.

Two sheets whose keys are the same share the keys of their cells; `collisions` lists them.
-/

namespace CellGraph

structure SheetKeys where
  names : List Text
  deriving DecidableEq, Repr

/-- Two sheets with one key; `first` stands earlier among the sheets. -/
structure Collision where
  first : Text
  second : Text
  deriving DecidableEq, Repr

/-- The placeholder for the cell with a key in the formulas of a model. -/
def placeholder (key : Text) : Text := "$\x7bmetric:" ++ key ++ "\x7d"

namespace SheetKeys

/-- The key of a sheet by its name. -/
def ofName (name : Text) : Text := name.filter Text.isWordChar ++ ['!']

def several (k : SheetKeys) : Bool := 1 < k.names.length

/-- The key of the sheet with a name in any letter case; of several such sheets the last
counts. -/
def find? (k : SheetKeys) (name : Text) : Option Text :=
  (k.names.reverse.find? fun n => Text.foldCase n = Text.foldCase name).map ofName

/-- The key of the cell at an address on a sheet. -/
def keyAt (k : SheetKeys) (address sheet : Text) : Text :=
  if k.several then (k.find? sheet).getD (ofName sheet) ++ address else address

/-- The key of the cell that a reference means on the current sheet; none for an unknown sheet.
A reference that names no sheet takes the `inherited` one, if there is one. -/
def resolve? (k : SheetKeys) (r : Ref) (current : Text) (inherited : Option Text) :
    Option Text :=
  let sheet := (r.sheet.filter (· ≠ [])).or inherited
  if k.several then
    (k.find? ((sheet.filter (· ≠ [])).getD current)).map (· ++ r.address)
  else match sheet with
    | none => some r.address
    | some name => (k.find? name).map fun _ => r.address

/-- A reference as its placeholder, or as written if it means no known sheet. -/
def wrap (k : SheetKeys) (current : Text) (inherited : Option Text) (r : Ref) : Text :=
  match k.resolve? r current inherited with
  | some key => placeholder key
  | none => r.text

/-- The text of a tree with placeholders for its references. The second end of a range lives on
the sheet of the first unless it names one. -/
def writeTree (k : SheetKeys) (current : Text) (ns : List Node) : Text :=
  Node.writeAll (k.wrap current none)
    (fun a b => k.wrap current none a ++ ':' :: k.wrap current a.sheet b) ns

/-- A formula with placeholders for its references. -/
def write (k : SheetKeys) (current formula : Text) : Text :=
  k.writeTree current (Parser.parse formula)

/-- The collisions of sheets with those before them, each with the first sheet of its key. Names
that differ only in letter case do not collide. -/
def collisionsAfter (earlier : List Text) : List Text → List Collision
  | [] => []
  | name :: names =>
    let rest := collisionsAfter (earlier ++ [name]) names
    match earlier.find? fun n => ofName n = ofName name with
    | some first =>
      if Text.foldCase first = Text.foldCase name then rest else ⟨first, name⟩ :: rest
    | none => rest

def collisions (k : SheetKeys) : List Collision := collisionsAfter [] k.names

end SheetKeys

def Collision.message (c : Collision) : Text :=
  "Sheets " ++ Text.quoted c.first ++ " and " ++ Text.quoted c.second ++ " share the prefix " ++
    Text.quoted (SheetKeys.ofName c.second) ++ "; their cells will collide"

end CellGraph
