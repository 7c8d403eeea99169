import CellGraph.Codec.Zip
import CellGraph.Package.Reading

/-!
# Workbook files

What a file may hold, and the loader that the program comes with. It knows no formats of numbers, so
that points in time which are written as numbers stay numbers. The service works with any loader, and
nothing that is said of it depends on this one.
-/

namespace CellGraph

/-- What a file holds: a package, a workbook that was filled in and saved, or something else. -/
inductive WorkbookFile where
  | package (p : Package)
  | saved (d : BookDraft)
  | other
  deriving DecidableEq, Repr

namespace WorkbookFile

/-- A part by the bytes of its name and its content. A name that is no text counts as empty. -/
def partOf (m : Zip.Member) : Text × List UInt8 := ((Utf.decodeUtf8? m.name).getD [], m.content)

def ofBytes (bytes : List UInt8) : WorkbookFile :=
  match Zip.unpack? bytes with
  | some members => .package ⟨members.map partOf⟩
  | none => .other

/-- The workbook in a file, with its formulas or with their results. A workbook that was filled in
has no results. -/
def workbook (results : Bool) : WorkbookFile → Except FileError (Workbook FileError)
  | .package p => p.workbook results
  | .saved d =>
    match d.workbook with
    | .ok w => .ok (if results then ⟨d.sheets.map fun s => .ofPlaces s.name .empty⟩
      else w.mapError fun _ => .malformed)
    | .error _ => .error .malformed
  | .other => .error .noPackage

/-- The workbook in a file, as it is read. -/
def book (f : WorkbookFile) : Except FileError Book := do
  let formulas ← f.workbook false
  Book.ofWorkbook .noSheet formulas (some (← f.workbook true))

/-- The workbook from a source. A file that is opened by its path must have the name of one. -/
def load (source : Source WorkbookFile) (results : Bool) :
    Except FileError (Workbook FileError) :=
  match source with
  | .file f => f.workbook results
  | .path path file =>
    let extension := (Path.extension path).map Char.toLower
    if FileError.extensions.contains extension then
      match file with
      | some f => f.workbook results
      | none => .error (.missing path)
    else .error (.unsupported extension)

@[default_instance]
instance : Loader WorkbookFile where
  load source results :=
    match load source results with
    | .ok w => .ok (w.mapError FileError.failure)
    | .error e => .error e.failure

/-- What is read from a file is the workbook in it. -/
theorem toOption_load (f : WorkbookFile) : (Book.load (.file f)).toOption = f.book.toOption := by
  have read (formulas results : Workbook FileError) :=
    Book.ofWorkbook_mapError FileError.failure .noSheet formulas (some results)
  unfold Book.load book
  simp only [Loader.load, load]
  cases f.workbook false with
  | error e => rfl
  | ok formulas =>
    cases f.workbook true with
    | error e => rfl
    | ok results =>
      show ((Book.ofWorkbook _ (formulas.mapError _) (some (results.mapError _))).mapError
        ReadError.failure).toOption = (Book.ofWorkbook _ formulas (some results)).toOption
      rw [show (Failure.noSheet : Text → Failure) = FileError.failure ∘ .noSheet from rfl]
      have same := read formulas results
      rw [Option.map_some] at same
      rw [same]
      cases Book.ofWorkbook .noSheet formulas (some results) <;> rfl

end WorkbookFile
end CellGraph
