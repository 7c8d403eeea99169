import CellGraph.Codec.Base64
import CellGraph.Codec.Zlib
import CellGraph.Json.Printer
import CellGraph.Json.Reader
import CellGraph.Settings

/-!
# Diagram links

A diagram travels in the address of its image: the state of an editor that holds it, as a packed
JSON text in base64 behind a marker.
-/

namespace CellGraph.Link

/-- What stands in front of a packed state. -/
def marker : Text := "pako:"

/-- Why a link does not hold a diagram. -/
inductive Error where
  /-- A character beyond ASCII. -/
  | notAscii
  /-- The last base64 group is not complete. -/
  | badBase64
  | badPacking
  | badEncoding
  | badJson
  /-- The state is no object. -/
  | noObject
  /-- The state holds no diagram. -/
  | noDiagram
  deriving DecidableEq, Repr

/-- The state of an editor with a diagram. -/
def state (diagram : Text) : Json := .object [
  ("code", .string diagram), ("mermaid", .object [("theme", .string "default")])]

/-- A state packed as text, without padding. -/
def pack (stateText : Text) : Text :=
  Text.trimEnd (· == '=') (Base64.encode (Zlib.pack (Utf.encode stateText)))

/-- A diagram as text for a link. -/
def encode (diagram : Text) : Text := marker ++ pack ((state diagram).text .spaced)

/-- The bytes of the state in the text of a link, with or without the marker. -/
def stateBytes (encoded : Text) : Except Error (List UInt8) :=
  let packed := (Text.after? marker encoded).getD encoded
  let padded := packed ++ List.replicate ((4 - packed.length % 4) % 4) '='
  if padded.any fun c => 0x80 ≤ c.toNat then .error .notAscii
  else match Base64.decode? padded with
    | none => .error .badBase64
    | some bytes =>
      match Zlib.unpack? bytes with
      | none => .error .badPacking
      | some bytes => .ok bytes

/-- The diagram in the text of a link. Nothing says that it is a text. -/
def decode (encoded : Text) : Except Error Json := do
  let bytes ← stateBytes encoded
  match Utf.decode? bytes with
  | none => .error .badEncoding
  | some stateText =>
    match Json.read? stateText with
    | none => .error .badJson
    | some (.object members) =>
      match (Json.object members).member? "code" with
      | some code => .ok code
      | none => .error .noDiagram
    | some _ => .error .noObject

/-- The address of a diagram's image; `kind` is the folder of an image format. -/
def url (s : Settings) (kind diagram : Text) : Text :=
  withoutSlashes s.imageUrl ++ '/' :: kind ++ '/' :: encode diagram

end CellGraph.Link
