import CellGraph.Package.PackageSchema

/-!
# Relations between parts

A relation leads from one part to another: each part has a part of its own that lists them under
identifiers. One more list says which type of content the parts have.
-/

namespace CellGraph.Package

/-- A relation to another part; `kind` is an address that names its purpose. -/
structure Relation where
  id : Option Text
  kind : Text
  target : Text
  deriving DecidableEq, Repr

def purpose (word : Text) : Text := relationSpace ++ '/' :: word

/-- The part that lists the relations of a part. -/
def relationsPart (name : Text) : Text :=
  let (folder, base) := Path.splitLast name
  Path.within folder ("_rels/" ++ base ++ ".rels")

/-- The part that a target leads to from a part. Targets outside the package stay as they are. -/
def targetPart (name target : Text) (isOutside : Bool) : Text :=
  if isOutside then target
  else match target with
    | '/' :: target => target
    | target => Path.resolve (Path.splitLast name).1 target

/-- A listed relation of a part, if it is one. -/
def relation? (name : Text) (x : Xml) : Option Relation := do
  let _ ← (PackageSchema.relation.check x).toOption
  let target ← field? x "Target"
  return ⟨field? x "Id", ← ((field? x "type").map purpose).or (field? x "Type"),
    targetPart name target (field? x "TargetMode" = some "External")⟩

/-- The relations of a part. A list with an entry that is no relation counts as empty. -/
def relations (p : Package) (name : Text) : Except FileError (List Relation) := do
  return (((← p.document (relationsPart name)).children).mapM (relation? name)).getD []

/-- The relations of a part that may list none. -/
def relationsIfAny (p : Package) (name : Text) : Except FileError (Option (List Relation)) :=
  if p.has (relationsPart name) then return some (← p.relations name) else return none

/-- The targets of the relations with a usual purpose. -/
def targetsFor (relations : List Relation) (word : Text) : List Text :=
  (relations.filter (·.kind = purpose word)).map (·.target)

/-- The part that lists the types of content. -/
def typesPart : Text := "[Content_Types].xml"

/-- The list of the types of content. -/
def types (p : Package) : Except FileError Xml := do
  let types ← p.document typesPart
  PackageSchema.types.check types
  return types

/-- The first part with a type of content. -/
def partOfType? (types : Xml) (contentType : Text) : Option Text :=
  ((types.childrenCalled "Override").find? fun o =>
    field? o "ContentType" = some contentType).map fun o => ((field? o "PartName").getD []).drop 1

/-- The types of content of a workbook: templates and workbooks, with and without macros. -/
def workbookTypes : List Text := [
  "application/vnd.ms-excel.template.macroEnabled.main+xml",
  "application/vnd.openxmlformats-officedocument.spreadsheetml.template.main+xml",
  "application/vnd.ms-excel.sheet.macroEnabled.main+xml",
  "application/vnd.openxmlformats-officedocument.spreadsheetml.sheet.main+xml"]

/-- The part that is the workbook. A package may also say it of all parts with an ending; then the
workbook has its usual name. -/
def workbookPart (types : Xml) : Except FileError Text :=
  match workbookTypes.findSome? (partOfType? types) with
  | some name => .ok name
  | none =>
    if (types.childrenCalled "Default").any fun d =>
        workbookTypes.any fun t => field? d "ContentType" = some t then
      .ok "xl/workbook.xml"
    else .error .noWorkbook

end CellGraph.Package
