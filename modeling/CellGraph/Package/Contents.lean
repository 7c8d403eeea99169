import CellGraph.Package.Listing
import CellGraph.Package.Relations

/-!
# The contents of a sheet

What stands in the cells of a sheet once everything that it lists is taken together: of a merged
rectangle only the first cell holds anything, and a blank cell with a link shows where that leads.
-/

namespace CellGraph.Package

/-- What stands in the cells of a sheet. The cells reach down to a row and to the right to a
column, blank ones included. -/
structure Contents where
  places : Places Content
  lastRow : Int
  lastColumn : Nat

namespace Contents

/-- The place of a cell, if sheets have that row, and what stands there. -/
def assignment? (c : ReadCell) : Option (Place × Option Content) :=
  if 1 ≤ c.row then some (⟨c.column, c.row.toNat⟩, occupied? c.content) else none

/-- The contents of the cells that a sheet lists. -/
def ofListing (s : Listing) : Contents where
  places := .ofCells (s.cells.reverse.filterMap assignment?)
  lastRow := s.cells.foldl (fun n c => max n c.row) 1
  lastColumn := s.cells.foldl (fun n c => max n c.column) 1

/-- Whether a place has been merged into the first one of a rectangle. -/
def isMergedIn (rectangles : List Rectangle) (p : Place) : Bool :=
  rectangles.any fun r => r.contains p && r.first ≠ p

def merge (c : Contents) (rectangles : List Rectangle) : Contents where
  places := ⟨c.places.items.filter fun (p, _) => !isMergedIn rectangles p,
    c.places.ordered.filter _⟩
  lastRow := rectangles.foldl (fun n r => max n r.last.row) c.lastRow
  lastColumn := rectangles.foldl (fun n r => max n r.last.column) c.lastColumn

/-- The places from one column and row to others. -/
def placesBetween (firstColumn lastColumn firstRow lastRow : Nat) : List Place :=
  (List.range' firstRow (lastRow + 1 - firstRow)).flatMap fun row =>
    (List.range' firstColumn (lastColumn + 1 - firstColumn)).map fun column => ⟨column, row⟩

/-- The cells of a range with a colon. One column or one row alone is no range of cells. -/
def rangePlaces (c : Contents) (b : Bounds) : Except FileError (List Place) :=
  match b.firstColumn, b.lastColumn, b.firstRow, b.lastRow with
  | some left, some right, some top, some bottom =>
    let top := if top = 0 then 1 else top
    let bottom := if bottom = 0 then c.lastRow.toNat else bottom
    if rowLimit < bottom ∧ top ≤ bottom then .error .malformed
    else .ok (placesBetween left right top bottom)
  | some left, some right, _, _ =>
    if left = right then .error (.flaw .mistyped)
    else .ok (placesBetween left right 1 c.lastRow.toNat)
  | _, _, some top, some bottom =>
    if top = 0 ∧ bottom = 0 then .error (.flaw .noEntry)
    else if top = bottom then .error (.flaw .mistyped)
    else .ok (placesBetween 1 c.lastColumn (max top 1) bottom)
  | _, _, _, _ => .error .malformed

/-- The cells from which a link leads. A link from one merged cell leads from the first cell of its
rectangle. -/
def linkPlaces (c : Contents) (rectangles : List Rectangle) (range : Text) :
    Except FileError (List Place) := do
  let b ← orMalformed (Bounds.read? range)
  if range.contains ':' then c.rangePlaces b
  else match b.firstColumn, b.firstRow with
    | none, none | none, some 0 => throw (.flaw .noEntry)
    | some column, some row =>
      if row < 1 ∨ rowLimit < row then throw .malformed
      match rectangles.find? fun r => r.contains ⟨column, row⟩ && r.first ≠ ⟨column, row⟩ with
      | some r => return [r.first]
      | none => return [⟨column, row⟩]
    | _, _ => throw (.flaw .misplaced)

/-- What a link shows in a blank cell. -/
def shown? (target location : Option Text) : Option Content :=
  ((target.filter (· ≠ [])).or location).map contentOfText

/-- Shows something in a cell that is blank and not merged. -/
def show_ (rectangles : List Rectangle) (shown : Option Content) (c : Contents) (p : Place) :
    Contents where
  places := match shown with
    | some content =>
      if (c.places.find? p).isSome || isMergedIn rectangles p then c.places
      else c.places.put p content
    | none => c.places
  lastRow := max c.lastRow p.row
  lastColumn := max c.lastColumn p.column

/-- Finds a relation that must be there. -/
def relationCalled (relations : List Relation) (id : Option Text) : Except FileError Relation :=
  orMalformed (relations.find? (·.id = id))

def addLink (relations : List Relation) (rectangles : List Rectangle) (c : Contents) (l : Link) :
    Except FileError Contents := do
  let target ← match l.relation.filter (· ≠ []) with
    | none => pure l.target
    | some id => pure (some (← relationCalled relations (some id)).target)
  let places ← c.linkPlaces rectangles l.range
  return places.foldl (show_ rectangles (shown? target l.location)) c

/-- The contents of a sheet, and the parts that hold its tables. -/
def read (r : SheetReader) (relations : List Relation) (reading : XmlReading) :
    Except FileError (Contents × List Text) := do
  let s ← Listing.read r reading
  let c ← s.links.foldlM (addLink relations s.merged) ((ofListing s).merge s.merged)
  s.checkFormats r
  let tables ← s.tables.mapM fun id => do return (← relationCalled relations id).target
  return (c, tables)

/-- The rows of the sheet. All cells must lie inside it. -/
def rows (c : Contents) : Except FileError (List (List (Place × Content))) :=
  match c.places.items.find? fun (p, _) => p.row ≤ rowLimit && columnLimit < p.column with
  | some (p, _) => .error (.flaw (.columnOutside p.column))
  | none => if rowLimit < c.lastRow then .error (.flaw .rowOutside) else .ok c.places.rows

/-- The sheet with a title. -/
def worksheet (c : Contents) (title : Text) : Worksheet FileError :=
  { (Worksheet.ofPlaces title c.places : Worksheet FileError) with rows := c.rows }

end Contents
end CellGraph.Package
