import CellGraph.Book.Loader
import CellGraph.Text.Path
import CellGraph.Text.Quoted
import CellGraph.Xml.Reader

/-!
# Workbook packages

A workbook file is a package of named parts, most of them XML documents. `Package.document` reads a
part, and `FileError` says why a file is no readable workbook.
-/

namespace CellGraph

/-- The parts of a package by name. Of several with one name the last counts. -/
structure Package where
  parts : List (Text × List UInt8)
  deriving DecidableEq, Repr

/-- A flaw inside a part that readers do not expect. -/
inductive PartFlaw where
  /-- A field that must be there is missing, or one has an unknown name or no readable number. -/
  | mistyped
  /-- A part is written in a character set that nobody knows. -/
  | unknownEncoding
  /-- An index leads out of a list. -/
  | noEntry
  /-- A chart sheet lists no relations, or a link leads from a whole row or column. -/
  | misplaced
  /-- The first cell of those with a shared formula has a blank place. -/
  | blankPlace
  /-- A shared formula cannot be taken apart. -/
  | brokenFormula
  /-- A shared formula leads out of the sheet. -/
  | formulaOutside
  /-- A cell stands below the last row of a sheet. -/
  | rowOutside
  /-- A cell stands behind the last column of a sheet. -/
  | columnOutside (column : Nat)
  deriving DecidableEq, Repr

/-- Why a workbook file cannot be read. -/
inductive FileError where
  /-- The name of the file does not end like that of a workbook. -/
  | unsupported (extension : Text)
  | missing (path : Text)
  | noPackage
  | noPart (name : Text)
  /-- No part is the workbook. -/
  | noWorkbook
  /-- A part breaks the rules of XML or of workbooks. -/
  | malformed
  /-- The results of formulas lack a sheet. -/
  | noSheet (title : Text)
  | flaw (f : PartFlaw)
  deriving DecidableEq, Repr

/-- The number of the last row of a sheet. -/
def rowLimit : Nat := 1048576

/-- The number of the last column of a sheet. -/
def columnLimit : Nat := 18278

def PartFlaw.message : PartFlaw → Text
  | .mistyped => "unexpected field"
  | .unknownEncoding => "unknown encoding"
  | .noEntry => "list index out of range"
  | .misplaced => "misplaced part"
  | .blankPlace => "blank place"
  | .brokenFormula => "broken formula"
  | .formulaOutside => "Formula out of range"
  | .rowOutside => "Row numbers must be between 1 and " ++ Text.ofNat rowLimit ++
    ". Row number supplied was " ++ Text.ofNat (rowLimit + 1)
  | .columnOutside column => "Invalid column index " ++ Text.ofNat column

/-- The endings of the names of workbooks. -/
def FileError.extensions : List Text := [".xlsx", ".xlsm", ".xltx", ".xltm"]

def PartFlaw.kind : PartFlaw → FailureKind
  | .rowOutside | .columnOutside _ => .badValue
  | _ => .other

/-- The failure of the loader that an error is. -/
def FileError.failure : FileError → Failure
  | .unsupported extension => ⟨.badName, Text.quoted extension ++
    " is not one of the supported formats " ++ Text.join ", " extensions⟩
  | .missing path => ⟨.system, "[Errno 2] No such file or directory: " ++ Text.quoted path⟩
  | .noPackage => ⟨.badArchive, "File is not a zip file"⟩
  | .noPart name => ⟨.missingKey,
    Text.quoted ("There is no item named " ++ Text.quoted name ++ " in the archive")⟩
  | .noWorkbook => ⟨.system, "File contains no valid workbook part"⟩
  | .malformed => ⟨.badMarkup, "malformed part"⟩
  | .noSheet title => .noSheet title
  | .flaw f => ⟨f.kind, f.message⟩

/-- The fault of an XML document as an error of the file. -/
def FileError.ofXml : XmlFault → FileError
  | .malformed => .malformed
  | .unknownEncoding => .flaw .unknownEncoding

def orMalformed {α : Type} : Option α → Except FileError α
  | some a => .ok a
  | none => .error .malformed

namespace Package

/-- Whether there is a part with a name. -/
def has (p : Package) (name : Text) : Bool := p.parts.any (·.1 = name)

def part (p : Package) (name : Text) : Except FileError (List UInt8) :=
  match p.parts.reverse.lookup name with
  | some bytes => .ok bytes
  | none => .error (.noPart name)

/-- A part as an XML document that may break off. -/
def reading (p : Package) (name : Text) : Except FileError XmlReading := do
  return Xml.read (← p.part name)

def whole (r : XmlReading) : Except FileError Unit :=
  match r.fault with
  | none => .ok ()
  | some fault => .error (.ofXml fault)

def document (p : Package) (name : Text) : Except FileError Xml := do
  match (← p.reading name).root with
  | .ok x => return x
  | .error fault => throw (.ofXml fault)

/-- The host of the name spaces and relations of packages. -/
def host : List String := ["schemas", "openxmlformats", "org"]

/-- The name space of workbooks and sheets. -/
def sheetSpace : Text := webAddress host "spreadsheetml/2006/main"

/-- The name space of mentions of relations, in which the kinds of relations lie too. -/
def relationSpace : Text := webAddress host "officeDocument/2006/relationships"

def sheetName (word : Text) : XmlName := ⟨sheetSpace, word⟩

/-- The first child with a name of sheets. -/
def sheetChild? (x : Xml) (word : Text) : Option Xml := x.child? (· = sheetName word)

end Package
end CellGraph
