import CellGraph.Text.Basic

/-!
# Settings

Where models are stored, where diagrams are drawn, and where the local service listens.
-/

namespace CellGraph

/-- The addresses of the services that are talked to, and the token for the model store. -/
structure Settings where
  /-- Below this address each model space has its own. -/
  spacesUrl : Text := "https://guesstimate.herokuapp.com/spaces"
  referrer : Text := "https://www.getguesstimate.com/"
  /-- The entry of the browser's local storage that holds a token. -/
  tokenKey : Text := "Guesstimate-Testme"
  token : Text := []
  imageUrl : Text := "https://mermaid.ink"
  serviceUrl : Text := "http://localhost:8000"
  deriving DecidableEq, Repr

/-- An address without slashes at its end. -/
def withoutSlashes (url : Text) : Text := Text.trimEnd (· == '/') url

end CellGraph
