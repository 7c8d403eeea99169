import CellGraph.Book.Value
import CellGraph.Package.Relations
import CellGraph.Package.StringSchema

/-!
# Shared and rich strings

A package keeps the strings of its cells in a table of their own. A string is either one text or a
sequence of runs, each with or without a format.
-/

namespace CellGraph.Package

/-- The type of content of the shared strings. -/
def stringsType : Text :=
  "application/vnd.openxmlformats-officedocument.spreadsheetml.sharedStrings+xml"

/-- The text of a string or of a run without the marks that escape underscores. -/
def textOf (x : Xml) : Text := Text.omitting "x005F_" 0 ((field? x "t").getD [])

/-- The value of a string. A string with a text of its own has no runs, and one run without a format
is a plain text. -/
def stringValue (x : Xml) : Value :=
  if (field? x "t").any (· ≠ []) then .text (textOf x)
  else match x.childrenCalled "r" with
    | [] => .text []
    | [run] =>
      if (run.lastChildCalled? "rPr").isSome then .rich [textOf run] else .text (textOf run)
    | runs => .rich (runs.map textOf)

def readString (x : Xml) : Except FileError Value := do
  StringSchema.text.check x
  return stringValue x

/-- The shared strings of a package in order; without a table there are none. -/
def sharedStrings (p : Package) (types : Xml) : Except FileError (Array Value) :=
  match partOfType? types stringsType with
  | none => .ok #[]
  | some name => do
    let reading ← p.reading name
    let strings ← (Xml.allCalled (· = sheetName "si") reading.elements).foldlM
      (fun strings x => return strings.push (← readString x)) #[]
    whole reading
    return strings

/-- Whether an index leads into a list of some length; a negative one counts from the end. -/
def isIndex (length : Nat) (index : Int) : Bool := -(length : Int) ≤ index && index < length

def sharedString (strings : Array Value) (index : Int) : Except FileError Value :=
  let index := if index < 0 then index + strings.size else index
  match if index < 0 then none else strings[index.toNat]? with
  | some v => .ok v
  | none => .error (.flaw .noEntry)

end CellGraph.Package
