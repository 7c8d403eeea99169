import CellGraph.Diagram.Network
import CellGraph.Service.Conversion
import CellGraph.Diagram.Link

/-!
# The local service

The service converts the workbooks that are posted to it, shows the network of the last one, and
tells its listeners when there is a new one. Each listener has a queue of messages that it has not
read yet.
-/

namespace CellGraph

/-- A listener with its unread messages, the oldest first. -/
structure Listener where
  id : Nat
  queue : List Text
  deriving DecidableEq, Repr

/-- The state of the service: the grid converted last, and the listeners in the order in which they
came. The numbers of listeners are never used again. -/
structure App where
  settings : Settings := {}
  latest : Option Grid := none
  listeners : List Listener := []
  nextId : Nat := 0
  deriving DecidableEq, Repr

/-- A file that is posted, by its name. -/
structure Upload (F : Type) where
  fileName : Text
  file : F
  deriving DecidableEq, Repr

/-- What a response of the service carries. -/
inductive Body where
  | json (j : Json)
  | text (t : Text)
  | page (p : NetworkPage)

structure Answer where
  status : Nat
  body : Body

namespace App

def title : Text := "Sheet → Guesstimate API"

def reload : Text := "reload"

/-! ## Listeners -/

/-- Registers a listener, and tells its number. -/
def connect (a : App) : App × Nat :=
  ({ a with listeners := a.listeners ++ [⟨a.nextId, []⟩], nextId := a.nextId + 1 }, a.nextId)

def disconnect (a : App) (id : Nat) : App :=
  { a with listeners := a.listeners.filter (·.id ≠ id) }

def broadcast (a : App) (message : Text) : App :=
  { a with listeners := a.listeners.map fun l => { l with queue := l.queue ++ [message] } }

/-- The next message of a listener, which is then read; none if it has to wait. -/
def read (a : App) (id : Nat) : App × Option Text :=
  match (a.listeners.find? (·.id = id)).map (·.queue) with
  | some (message :: rest) =>
    ({ a with listeners := a.listeners.map fun l =>
        if l.id = id then { l with queue := rest } else l }, some message)
  | _ => (a, none)

/-- A message as it is sent to a listener. -/
def event (message : Text) : Text := "data: " ++ message ++ "\n\n"

/-! ## Requests -/

variable {F : Type}

def explain (status : Nat) (detail : Text) : Answer :=
  ⟨status, .json (.object [("detail", .string detail)])⟩

/-- The response to a file that cannot be converted. -/
def rejection (u : Upload F) (e : ConversionError) : Answer :=
  match e.shown? with
  | some message => explain 400 (u.fileName ++ ": " ++ message)
  | none => ⟨500, .text "Internal Server Error"⟩

/-- Everything that is needed to load a grid into a model space. -/
def conversion (s : Settings) (g : Grid) : Json :=
  let m := Model.ofGrid g
  let flowchart := Flowchart.ofGrid g
  .object [("graph", m.payload), ("script", .string (m.script s)), ("mermaid", .string flowchart),
    ("mermaid_url", .string (Link.url s "img" flowchart)),
    ("unresolved", .object (g.unresolved.map fun c => (c.key, .strings c.unresolved)))]

variable [Loader F]

/-- Converts a posted workbook and keeps its grid. -/
def convert (a : App) (u : Upload F) : App × Answer :=
  match Conversion.ofFile u.file with
  | .error e => (a, rejection u e)
  | .ok g => ({ a with latest := some g }.broadcast reload, ⟨200, .json (conversion a.settings g)⟩)

/-- Draws the flowchart of a posted workbook. -/
def draw (u : Upload F) : Answer :=
  match Conversion.ofFile u.file with
  | .error e => rejection u e
  | .ok g => ⟨200, .text (Flowchart.ofGrid g)⟩

/-- Shows the network of the grid converted last, on a page that loads itself again. -/
def view (a : App) : Answer :=
  match a.latest with
  | none => explain 404 "Nothing converted yet, POST a workbook to /convert"
  | some g => ⟨200, .page { Network.page g Network.pageHeight with reloads := true }⟩

/-- What the service does at its paths. -/
inductive Route where
  | convert
  | draw
  | view
  | listen
  deriving DecidableEq, Repr

/-- The route at a path; a query and slashes at the end do not count. -/
def Route.ofPath? (path : Text) : Option Route :=
  [(("/convert" : Text), Route.convert), ("/diagram", .draw), ("/graph", .view),
    ("/events", .listen)].lookup (Text.trimEnd (· == '/') (path.takeWhile fun c => c ≠ '?'))

def Route.posts : Route → Bool
  | .convert | .draw => true
  | .view | .listen => false

/-- Answers a request that posts a file or gets something. A file without a name does not count. -/
def handle (a : App) (posts : Bool) (path : Text) (u : Option (Upload F)) : App × Answer :=
  match Route.ofPath? path with
  | none => (a, explain 404 "Not Found")
  | some route =>
    if route.posts ≠ posts then (a, explain 405 "Method Not Allowed")
    else match route, u.filter (·.fileName ≠ []) with
      | .convert, some u => a.convert u
      | .draw, some u => (a, draw u)
      | .convert, none | .draw, none => (a, explain 422 "Field required")
      | .view, _ => (a, a.view)
      | .listen, _ => (a.connect.1, ⟨200, .text []⟩)

end App
end CellGraph
