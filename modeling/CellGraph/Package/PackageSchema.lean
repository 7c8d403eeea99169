import CellGraph.Package.Schema

/-!
# Schemas of packages

The fields of the lists that every package has: the types of content and the relations of a part.
-/

namespace CellGraph.Package.PackageSchema

/-- The type of content of all parts with an ending. -/
def default : Schema := .record (
  needed .text ["Extension", "ContentType"])

/-- The type of content of one part. -/
def override : Schema := .record (
  needed .text ["PartName", "ContentType"])

def types : Schema := .record (
  elements default ["Default"] ++
  elements override ["Override"])

/-- A relation to another part; `type` is the last word of a usual purpose. -/
def relation : Schema := .record (
  needed .text ["Target"] ++
  optional .text ["Id", "Type", "type", "TargetMode"])

def extensions : Schema := .record (
  elements (.record (needed .text ["uri"])) ["ext"])

end CellGraph.Package.PackageSchema
