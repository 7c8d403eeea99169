import CellGraph.Text.Basic

/-!
# Paths

Names of files, with slashes between folders. A path in `plain` form has no empty component and
none that means the folder it stands in; `resolve` also undoes steps to parent folders.
-/

namespace CellGraph.Path

/-- Whether a path starts at the root. -/
def isAbsolute (path : Text) : Bool := path.head? = some '/'

def components (path : Text) : List Text :=
  (Text.split '/' path).filter fun c => c ≠ [] && c ≠ ['.']

/-- The path with given names. Without names it is the root or the current folder. -/
def ofComponents (absolute : Bool) (names : List Text) : Text :=
  if absolute then '/' :: Text.join ['/'] names
  else if names = [] then ['.'] else Text.join ['/'] names

def plain (path : Text) : Text := ofComponents (isAbsolute path) (components path)

/-- A path as seen from a folder. -/
def within (folder path : Text) : Text :=
  if isAbsolute path || folder = [] then path else folder ++ '/' :: path

/-- Names with the steps to parent folders undone, given the names before them backwards. Nothing
stands above the root. -/
def withoutParents (absolute : Bool) (before : List Text) : List Text → List Text
  | [] => before.reverse
  | name :: names =>
    if name = ".." then
      match before with
      | [] => withoutParents absolute (if absolute then [] else [name]) names
      | last :: others =>
        if last = ".." then withoutParents absolute (name :: before) names
        else withoutParents absolute others names
    else withoutParents absolute (name :: before) names

/-- A path as seen from a folder, without steps to parent folders as far as they can be undone. -/
def resolve (folder path : Text) : Text :=
  let path := within folder path
  ofComponents (isAbsolute path) (withoutParents (isAbsolute path) [] (components path))

/-- The last name on a path; none for the root or the current folder. -/
def name (path : Text) : Text := (components path).getLast?.getD []

/-- Everything in front of the last slash, and what stands behind it. -/
def splitLast (path : Text) : Text × Text :=
  let base := (path.reverse.takeWhile (· ≠ '/')).reverse
  (path.take (path.length - base.length - 1), base)

/-- A name up to its last point; points at the start and at the end do not count. -/
def stem (path : Text) : Text :=
  let name := name path
  let tail := name.reverse.takeWhile (· ≠ '.')
  let head := name.take (name.length - tail.length - 1)
  if tail = [] ∨ head = [] ∨ tail.length = name.length then name else head

/-- What follows the last point of a name, with that point; points at the start do not count. -/
def extension (path : Text) : Text :=
  let base := (splitLast path).2.dropWhile (· = '.')
  let tail := (base.reverse.takeWhile (· ≠ '.')).reverse
  if tail.length = base.length then [] else '.' :: tail

example : plain "./o//p" = "o/p".toList := by decide
example : resolve [] "elsewhere/../m.xlsx" = "m.xlsx".toList := by decide
example : stem "d/a.b.xlsx" = "a.b".toList ∧ stem ".json" = ".json".toList := by decide
example : extension "d.x/a.b.xlsx" = ".xlsx".toList ∧ extension ".xlsx" = [] := by decide

end CellGraph.Path
