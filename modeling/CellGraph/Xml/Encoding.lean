import CellGraph.Codec.CharacterSet
import CellGraph.Codec.Utf
import CellGraph.Xml.Name

/-!
# The encoding of an XML document

A document starts with a byte order mark or shows by its first two bytes how wide its characters
are. A declaration behind that may name the set of characters and must agree with the width. Without
one the document is in UTF-8 or UTF-16.
-/

namespace CellGraph

inductive XmlFault where
  | malformed
  /-- The declaration names a set of characters that nobody knows. -/
  | unknownEncoding
  deriving DecidableEq, Repr

/-- The characters of a document behind its declaration. -/
structure XmlSource where
  text : Text
  /-- Whether the text reaches the end of the document; behind it no character is legal. -/
  whole : Bool
  /-- Whether nothing outside the document may add to it. -/
  standalone : Bool
  deriving DecidableEq, Repr

namespace Markup

def isSpace (c : Char) : Bool := c = ' ' || c = '\t' || c = '\n' || c = '\r'

/-- Whether a character may occur at all. -/
def isLegal (c : Char) : Bool :=
  isSpace c || (0x20 ≤ c.toNat && c.toNat ≠ 0xFFFE && c.toNat ≠ 0xFFFF)

/-- A text whose lines all end in one line feed. -/
def unifyLines (t : Text) : Text :=
  (t.foldl (fun (done, behindReturn) c =>
    if c = '\r' then ('\n' :: done, true)
    else if c = '\n' && behindReturn then (done, false)
    else (c :: done, false)) (([] : Text), false)).1.reverse

/-- The text in front of the first occurrence of `mark`, behind the characters `done` backwards, and
the text behind it. -/
def cut? (mark : Text) (done : Text) : Text → Option (Text × Text)
  | [] => none
  | c :: t =>
    match Text.after? mark (c :: t) with
    | some rest => some (done.reverse, rest)
    | none => cut? mark (c :: done) t

theorem length_after? {mark t rest : Text} (h : Text.after? mark t = some rest) :
    rest.length ≤ t.length := by
  unfold Text.after? at h
  split at h
  · simp only [Option.some.injEq] at h
    rw [← h, List.length_drop]; omega
  · simp at h

theorem length_cut? {mark done t head rest : Text} (h : cut? mark done t = some (head, rest)) :
    rest.length ≤ t.length := by
  induction t generalizing done with
  | nil => simp [cut?] at h
  | cons c t ih =>
    rw [cut?] at h
    split at h
    · next found =>
      cases h
      exact length_after? found
    · exact Nat.le_succ_of_le (ih h)

end Markup

namespace XmlSource

open Markup

/-- How wide the characters of a document are: single bytes, or units of two bytes in an order. -/
inductive Width where
  | bytes
  | units (bigEndian : Bool)
  deriving DecidableEq, Repr

/-- The width that the first bytes show, and the bytes behind a byte order mark. -/
def width : List UInt8 → Width × List UInt8
  | 0xFE :: 0xFF :: rest => (.units true, rest)
  | 0xFF :: 0xFE :: rest => (.units false, rest)
  | 0xEF :: 0xBB :: 0xBF :: rest => (.bytes, rest)
  | 0x00 :: rest => (.units true, 0x00 :: rest)
  | a :: 0x00 :: rest => (.units false, a :: 0x00 :: rest)
  | bytes => (.bytes, bytes)

def Width.ascii (w : Width) (t : Text) : List UInt8 :=
  t.flatMap fun c => match w with
    | .bytes => [c.toNat.toUInt8]
    | .units true => [0, c.toNat.toUInt8]
    | .units false => [c.toNat.toUInt8, 0]

/-- Numbers as characters as far as they are ASCII; others are taken for DEL. -/
def asciiOf (numbers : List Nat) : Text :=
  numbers.map fun n => if n < 0x80 then Char.ofNat n else '\x7f'

/-- The text in front of the first closing bracket, and the bytes behind the bracket. No other
character of a declaration has the byte of the bracket in it. -/
def untilBracket? (w : Width) (bytes : List UInt8) : Option (Text × List UInt8) :=
  let inner := bytes.takeWhile (· ≠ 0x3E)
  let rest := bytes.drop inner.length
  match w with
  | .bytes => some (asciiOf (inner.map UInt8.toNat), rest.drop 1)
  | .units false =>
    if rest[1]? = some 0 then
      (Utf.pairs? false inner).map fun ns => (asciiOf ns, rest.drop 2)
    else none
  | .units true =>
    if inner.getLast? = some 0 then
      (Utf.pairs? true inner.dropLast).map fun ns => (asciiOf ns, rest.drop 1)
    else none

structure Declaration where
  encoding : Option Text
  standalone : Bool
  deriving DecidableEq, Repr

/-- An attribute of a declaration behind white space, and the rest; the empty text when there is
none. Only ASCII letters and digits, points, hyphens and underscores may stand in a value. -/
def pseudoAttribute? (t : Text) : Option ((Text × Text) × Text) :=
  if t.all isSpace then some (([], []), [])
  else if t.head?.any isSpace then
    let t := t.dropWhile isSpace
    let name := t.takeWhile fun c => c ≠ '=' && !isSpace c
    match (t.drop name.length).dropWhile isSpace with
    | '=' :: t =>
      match t.dropWhile isSpace with
      | q :: t =>
        let value := t.takeWhile fun c => c.isAlphanum || c = '.' || c = '-' || c = '_'
        if (q = '"' ∨ q = '\'') ∧ name ≠ [] ∧ (t.drop value.length).head? = some q then
          some ((name, value), t.drop (value.length + 1))
        else none
      | [] => none
    | _ => none
  else none

/-- What stands between the word `xml` of a declaration and its end: a version, then perhaps an
encoding, then perhaps whether the document stands alone. -/
def declaration? (inner : Text) : Option Declaration := do
  let ((version, _), rest) ← pseudoAttribute? inner
  if version ≠ "version" then none
  let ((word, value), rest') ← pseudoAttribute? rest
  let (encoding, (word, value), rest) ←
    if word = "encoding" then
      if value.head?.any Char.isAlpha then (pseudoAttribute? rest').map ((some value, ·))
      else none
    else some (none, (word, value), rest')
  let standalone ←
    if word = [] then some false
    else if word = "standalone" ∧ rest.all isSpace then
      if value = "yes" then some true else if value = "no" then some false else none
    else none
  return ⟨encoding, standalone⟩

/-- How the characters of a document are read. -/
inductive Reading where
  | utf8
  | utf16 (bigEndian : Bool)
  | set (s : CharacterSet)
  deriving DecidableEq, Repr

/-- The reading for a width and the encoding that is declared. -/
def reading (width : Width) (encoding : Option Text) : Except XmlFault Reading :=
  let isNamed (names : List String) : Bool := encoding.any fun name =>
    names.contains (String.ofList (name.map Char.toUpper))
  let single (name : Text) : Except XmlFault Reading :=
    match CharacterSet.named? name with
    | some .other => .error .malformed
    | some s => .ok (.set s)
    | none => .error .unknownEncoding
  match encoding, width with
  | none, .bytes => .ok .utf8
  | none, .units bigEndian => .ok (.utf16 bigEndian)
  | some name, .bytes =>
    if isNamed ["UTF-8"] then .ok .utf8
    else if isNamed ["UTF-16", "UTF-16BE", "UTF-16LE"] then .error .malformed
    else single name
  | some name, .units bigEndian =>
    if isNamed ["UTF-16", if bigEndian then "UTF-16BE" else "UTF-16LE"] then
      .ok (.utf16 bigEndian)
    else if isNamed ["UTF-8", "UTF-16BE", "UTF-16LE", "ISO-8859-1", "US-ASCII"] then
      .error .malformed
    else single name

/-- The text of bytes, as far as they have a reading, and whether all have. -/
def decode (bytes : List UInt8) : Reading → Text × Bool
  | .utf8 => Utf.scanUtf8 [] bytes
  | .utf16 bigEndian => Utf.scanUtf16 bigEndian [] bytes
  | .set s =>
    let characters := (bytes.map s.character?).takeWhile Option.isSome
    (characters.filterMap id, characters.length = bytes.length)

/-- The declaration at the start of a document, if there is one, and the bytes behind it. -/
def declared (w : Width) (bytes : List UInt8) :
    Except XmlFault (Declaration × List UInt8) :=
  let opening := w.ascii "<?xml"
  if opening.isPrefixOf bytes then
    match untilBracket? w (bytes.drop opening.length) with
    | none => .error .malformed
    | some (t, rest) =>
      if t.head?.any fun c => isSpace c || c = '?' then
        match if t.getLast? = some '?' then declaration? t.dropLast else none with
        | some d => .ok (d, rest)
        | none => .error .malformed
      else .ok (⟨none, false⟩, bytes)
  else .ok (⟨none, false⟩, bytes)

def ofBytes (bytes : List UInt8) : Except XmlFault XmlSource := do
  let (width, bytes) := width bytes
  let (declaration, bytes) ← declared width bytes
  let (text, whole) := decode bytes (← reading width declaration.encoding)
  let legal := text.takeWhile isLegal
  return ⟨unifyLines legal, whole && legal.length = text.length, declaration.standalone⟩

example : (ofBytes (Utf.encode "<?xml version='1.0' encoding='utf-8'?>é")).toOption =
    some ⟨"é".toList, true, false⟩ := by decide +kernel

example : (declared (.units false) (Width.ascii (.units false) "<?xml version='1.1' ?>")).toOption =
    some (⟨none, false⟩, []) := by decide +kernel

end XmlSource
end CellGraph
