import CellGraph.Diagram.Link
import CellGraph.Model.Basic
import CellGraph.Settings

/-!
# Requests to other services

The requests that are sent, and what comes back: a response, or a failure to reach the service at
all. A response is an error if its status says so.
-/

namespace CellGraph

inductive Method where
  | get
  | post
  | patch
  deriving DecidableEq, Repr

/-- A request. Some requests carry a JSON body, some a file; the timeout is in seconds. -/
structure Request where
  method : Method
  url : Text
  body : Option Json := none
  headers : List (Text × Text) := []
  timeout : Nat
  fileName : Option Text := none

structure Response where
  status : Int := 200
  reason : Text := "OK"
  content : Text := []
  deriving DecidableEq, Repr

/-- What comes back for a request: a response, or why there is none. -/
inductive Reply where
  | response (r : Response)
  | failure (why : Text)
  deriving DecidableEq, Repr

/-- Why a request has not done its work. -/
inductive RequestError where
  | noConnection (why : Text)
  | refused (status : Int) (reason url : Text)
  deriving DecidableEq, Repr

def RequestError.message : RequestError → Text
  | .noConnection why => why
  | .refused status reason url =>
    Text.ofInt status ++ (if status < 500 then (" Client Error: " : Text) else " Server Error: ") ++
      reason ++ " for url: " ++ url

/-- The response to a request for an address, unless its status is that of an error. -/
def Reply.accepted (url : Text) : Reply → Except RequestError Response
  | .failure why => .error (.noConnection why)
  | .response r =>
    if 400 ≤ r.status ∧ r.status < 600 then .error (.refused r.status r.reason url) else .ok r

namespace Request

/-- Asks for the image of a diagram. -/
def image (s : Settings) (kind diagram : Text) : Request where
  method := .get
  url := Link.url s kind diagram
  timeout := 30

/-- Replaces the contents of a model space. Without a token that of the settings is used. -/
def push (s : Settings) (m : Model) (space : Text) (token : Option Text) : Request where
  method := .patch
  url := withoutSlashes s.spacesUrl ++ '/' :: space
  body := some m.payload
  headers := [("accept", "application/json"),
    ("authorization", "Bearer " ++ (token.filter (· ≠ [])).getD s.token), ("referer", s.referrer)]
  timeout := 30

/-- Hands a workbook to the local service. -/
def notify (s : Settings) (fileName : Text) : Request where
  method := .post
  url := s.serviceUrl ++ "/convert"
  timeout := 10
  fileName := some fileName

end Request
end CellGraph
