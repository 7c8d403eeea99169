import CellGraph.Book.Workbook

/-!
# Loading workbooks

How a file becomes a workbook is left to a loader of such files, of which nothing is asked: it may
load whatever it likes and fail as it likes. A file is loaded twice, for its formulas and for their
last results. Failures of the kinds that are expected of a loader are told to the user, all others
are not, and neither is a failure while the loaded workbooks are gone through.
-/

namespace CellGraph

/-- The kinds of failures that are told apart. -/
inductive FailureKind where
  /-- The name of the file is not that of a workbook. -/
  | badName
  /-- The file is no archive. -/
  | badArchive
  /-- The file has a part that is no document. -/
  | badMarkup
  | missingKey
  | badValue
  /-- The file cannot be opened. -/
  | system
  | other
  deriving DecidableEq, Repr

structure Failure where
  kind : FailureKind
  message : Text
  deriving DecidableEq, Repr

namespace Failure

/-- Whether a failure is of a kind that is expected of a loader. -/
def isExpected (f : Failure) : Bool :=
  match f.kind with
  | .badName | .badArchive | .badMarkup | .missingKey | .badValue | .system => true
  | .other => false

/-- The workbook of results lacks a sheet. -/
def noSheet (title : Text) : Failure :=
  ⟨.missingKey, "Worksheet " ++ title ++ " does not exist."⟩

end Failure

/-- Where a workbook is loaded from: a path with the file there, if there is one, or a file that
has been handed over. -/
inductive Source (F : Type) where
  | path (path : Text) (file : Option F)
  | file (f : F)
  deriving DecidableEq, Repr

/-- A loader of files of a kind: from a source it loads a workbook with formulas, or one with their
results in the place of formulas. -/
class Loader (F : Type) where
  load (source : Source F) (results : Bool) : Except Failure (Workbook Failure)

/-- Why a source is not read. -/
inductive ReadError where
  /-- The source cannot be loaded, and the user is told. -/
  | document (message : Text)
  | failure (f : Failure)
  deriving DecidableEq, Repr

/-- What becomes of a failure of the loader. -/
def ReadError.ofLoader (f : Failure) : ReadError :=
  if f.isExpected then .document ("Cannot read workbook: " ++ f.message) else .failure f

/-- The workbook that is read from a source. -/
def Book.load {F : Type} [Loader F] (source : Source F) : Except ReadError Book := do
  let formulas ← (Loader.load source false).mapError .ofLoader
  let results ← (Loader.load source true).mapError .ofLoader
  (Book.ofWorkbook .noSheet formulas (some results)).mapError .failure

end CellGraph
