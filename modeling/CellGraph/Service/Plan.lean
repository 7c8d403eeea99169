import CellGraph.Diagram.Network
import CellGraph.Service.Conversion
import CellGraph.Service.Http

/-!
# Plans

What a command does, as data: lines to show, files to read and write, requests to send. `run` tells
what becomes of a plan in a given world.
-/

namespace CellGraph

inductive FileContent where
  | text (t : Text)
  | page (p : NetworkPage)
  deriving DecidableEq, Repr

/-- A plan that ends with a result, or with an error that nobody handles. -/
inductive Plan (α : Type) where
  | done (a : α)
  | fail
  /-- Shows a line. -/
  | show_ (line : Text) (next : Plan α)
  /-- Shows a line among the errors. -/
  | complain (line : Text) (next : Plan α)
  /-- Loads the workbook at a path. -/
  | load (path : Text) (next : Except ReadError Book → Plan α)
  /-- Makes a folder and those above it, as far as they are missing. -/
  | makeFolder (path : Text) (next : Plan α)
  | write (path : Text) (content : FileContent) (next : Plan α)
  | send (r : Request) (next : Reply → Plan α)

namespace Plan
variable {α β : Type}

/-- A plan and then another that depends on its result. -/
def andThen (p : Plan α) (f : α → Plan β) : Plan β :=
  match p with
  | .done a => f a
  | .fail => .fail
  | .show_ line next => .show_ line (next.andThen f)
  | .complain line next => .complain line (next.andThen f)
  | .load path next => .load path fun book => (next book).andThen f
  | .makeFolder path next => .makeFolder path (next.andThen f)
  | .write path content next => .write path content (next.andThen f)
  | .send r next => .send r fun reply => (next reply).andThen f

instance : Monad Plan where
  pure := .done
  bind := .andThen

def say (line : Text) : Plan Unit := .show_ line (.done ())

def warn (line : Text) : Plan Unit := .complain line (.done ())

/-- The grid of the workbook at a path. -/
def grid (path : Text) : Plan (Except ConversionError Grid) :=
  .load path fun book => .done (Conversion.ofBook book)

def save (path : Text) (content : FileContent) : Plan Unit := .write path content (.done ())

def ask (r : Request) : Plan Reply := .send r .done

def saveOutputs (s : Settings) (folder stem : Text) (g : Grid) : Plan Outputs := do
  let outputs := Outputs.paths folder stem
  .makeFolder (Path.plain folder) (.done ())
  (outputs.files s g).forM fun (path, t) => save path (.text t)
  return outputs

end Plan

/-- What surrounds a plan: files of some kind at resolved paths, with a loader for them, and services
that answer. -/
structure World where
  {File : Type}
  [loader : Loader File]
  folder : Text
  files : List (Text × File)
  reply : Request → Reply

attribute [instance] World.loader

/-- What a plan has done, in order; files and folders at resolved paths. -/
structure Trace where
  shown : List Text := []
  complaints : List Text := []
  requests : List Request := []
  folders : List Text := []
  files : List (Text × FileContent) := []

namespace World

/-- A path as seen in the world. -/
def at_ (w : World) (path : Text) : Text := Path.resolve w.folder path

/-- The workbook at a path. -/
def book (w : World) (path : Text) : Except ReadError Book :=
  Book.load (.path path (w.files.lookup (w.at_ path)))

/-- Whether a resolved path is that of a folder. -/
def hasFolder (w : World) (t : Trace) (path : Text) : Bool :=
  path = w.at_ ['.'] || t.folders.contains path ||
    (w.files.map (·.1) ++ t.folders ++ t.files.map (·.1)).any fun p =>
      (Text.after? (path ++ ['/']) p).isSome

/-- Whether a resolved path is that of a file, or leads through one. -/
def isBlocked (w : World) (t : Trace) (path : Text) : Bool :=
  (w.files.map (·.1) ++ t.files.map (·.1)).any fun p =>
    p = path || (Text.after? (p ++ ['/']) path).isSome

end World

/-- A file in the place of one with its path, or behind all others. -/
def Trace.putFile (path : Text) (content : FileContent) :
    List (Text × FileContent) → List (Text × FileContent)
  | [] => [(path, content)]
  | (p, c) :: files =>
    if p = path then (path, content) :: files else (p, c) :: putFile path content files

namespace Plan
variable {α : Type}

/-- What becomes of a plan after what has been done already, and its result if it comes to one. A
file can only be written into a folder and not in the place of one, and no folder can be made in the
place of a file or below it. -/
def run (w : World) (t : Trace) : Plan α → Trace × Option α
  | .done a => (t, some a)
  | .fail => (t, none)
  | .show_ line next => next.run w { t with shown := t.shown ++ [line] }
  | .complain line next => next.run w { t with complaints := t.complaints ++ [line] }
  | .load path next => (next (w.book path)).run w t
  | .makeFolder path next =>
    if w.isBlocked t (w.at_ path) then (t, none)
    else next.run w { t with folders := t.folders ++ [w.at_ path] }
  | .write path content next =>
    if w.hasFolder t (Path.resolve (w.at_ path) "..") && !w.hasFolder t (w.at_ path) then
      next.run w { t with files := Trace.putFile (w.at_ path) content t.files }
    else (t, none)
  | .send r next => (next (w.reply r)).run w { t with requests := t.requests ++ [r] }

end Plan
end CellGraph
