import CellGraph.Package.Coordinate
import CellGraph.Text.Blank

/-!
# Schemas of parts

Which fields the elements of a part may have. A field stands in an attribute or in a child element
of its name; children with other names are passed over, attributes with other names are not
allowed. `Schema.check` decides whether an element fits. Children are checked first, in their
order, then the names of the fields, then their values in the order of the record.
-/

namespace CellGraph.Package

/-- What may be written for a value. -/
inductive ValueKind where
  | text
  | integer
  | real
  | flag
  /-- One of some words, or none of them: the word `none`. -/
  | oneOf (words : List String)
  | exactly (words : List String)
  | within (low high : Int)
  | hexadecimal
  | base64
  /-- Five groups of hexadecimal digits in braces. -/
  | guid
  /-- A length with its unit. -/
  | measure
  /-- A range as filters write it. -/
  | area
  /-- A rectangle of cells. -/
  | rectangle
  /-- Rectangles with white space between them. -/
  | areas
  /-- The identifier of a relation. -/
  | relation
  deriving DecidableEq, Repr

def isHexadecimal (c : Char) : Bool := c.isDigit || (c.isAlpha && c.toUpper ≤ 'F')

/-- The text without one line feed at its end. -/
def beforeLineFeed (t : Text) : Text := if t.getLast? = some '\n' then t.dropLast else t

/-- The number that is written, white space around it aside and with groups of digits or
without. -/
def float? (t : Text) : Option Binary64 := do
  Binary64.read? (← Integer.ungroup? none (Text.trim t))

namespace ValueKind

/-- Whether a text writes bytes in groups of four characters. -/
def isBase64 (t : Text) : Bool :=
  let t := beforeLineFeed t
  let digits := t.takeWhile fun c => c.isAlphanum || c = '+' || c = '/'
  let padding := t.drop digits.length
  t ≠ [] && t.length % 4 = 0 && padding.length ≤ 2 && padding.all (· = '=')

/-- Whether a text starts with an identifier in braces. -/
def isGuid (t : Text) : Bool :=
  let groups := Text.split '-' ((t.drop 1).take 36)
  t.head? = some '\x7b' && t[37]? = some '\x7d' &&
    groups.map List.length = [8, 4, 4, 4, 12] &&
    groups.flatten.all fun c => isHexadecimal c && !c.isLower

/-- Whether a text starts with a number and a unit of length. -/
def isMeasure (t : Text) : Bool :=
  let whole := t.takeWhile Char.isDigit
  let rest := t.drop whole.length
  let rest := match rest with
    | '.' :: r => if r.head?.any Char.isDigit then r.dropWhile Char.isDigit else rest
    | _ => rest
  whole ≠ [] && (["mm", "cm", "in", "pt", "pc", "pi"] : List String).any fun unit =>
    unit.toList.isPrefixOf rest

/-- The rest behind one to three letters and digits, either with a dollar sign in front; the digits
may be missing if they need not be there. -/
def afterCorner? (needsDigits : Bool) (t : Text) : Option Text :=
  let t := (Ref.scanMarker t).2
  let letters := t.takeWhile Char.isAlpha
  let t := (Ref.scanMarker (t.drop letters.length)).2
  let digits := t.takeWhile Text.isDecimal
  if letters = [] ∨ 3 < letters.length ∨ (needsDigits ∧ digits = []) then none
  else some (t.drop digits.length)

/-- Whether a text is a range as filters write it: cells, or columns without dollar signs. -/
def isArea (t : Text) : Bool :=
  let t := beforeLineFeed (capitals t)
  let columns := Text.split ':' t
  match afterCorner? true t with
  | some [] => true
  | some (':' :: rest) => afterCorner? false rest = some []
  | _ => columns.length = 2 && columns.all fun c => c ≠ [] && c.length ≤ 3 && c.all Char.isAlpha

/-- Whether a text may stand for a value of some kind. -/
def check (k : ValueKind) (t : Text) : Except FileError Unit :=
  let known (b : Bool) : Except FileError Unit := if b then .ok () else .error .malformed
  let readable (b : Bool) : Except FileError Unit :=
    if b then .ok () else .error (.flaw .mistyped)
  match k with
  | .text | .flag | .relation => .ok ()
  | .integer => readable (Integer.read? t).isSome
  | .real => readable (float? t).isSome
  | .oneOf words => known (t = "none" || words.any (·.toList = t))
  | .exactly words => known (words.any (·.toList = t))
  | .within low high =>
    match Integer.read? t with
    | some n => known (low ≤ n && n ≤ high)
    | none => readable false
  | .hexadecimal => known (beforeLineFeed t ≠ [] && (beforeLineFeed t).all isHexadecimal)
  | .base64 => known (isBase64 t)
  | .guid => known (isGuid t)
  | .measure => known (isMeasure t)
  | .area => known (isArea t)
  | .rectangle => do let _ ← Rectangle.read t
  | .areas =>
    readable ((t.splitBy fun a b => Text.isBlank a = Text.isBlank b).all fun word =>
      word.all Text.isBlank || (Rectangle.read word).toOption.isSome)

/-- Whether a field of some kind may be there without a text. -/
def checkBlank (k : ValueKind) (needed : Bool) : Except FileError Unit :=
  match k with
  | .flag | .oneOf _ => .ok ()
  | .exactly _ | .guid => .error .malformed
  | _ => if needed then .error (.flaw .mistyped) else .ok ()

end ValueKind

inductive Presence where
  | optional
  /-- A missing field counts as one without a text. -/
  | expected
  /-- Without the field no value is checked. -/
  | required
  deriving DecidableEq, Repr

mutual
/-- The fields that an element may have. -/
inductive Schema where
  | any
  /-- A colour: an index, a theme, the automatic one, or red, green and blue. -/
  | color
  | record (slots : List (String × Slot))

inductive Slot where
  | value (kind : ValueKind) (presence : Presence)
  /-- The attribute `val` of a child is the value. -/
  | wrapped (kind : ValueKind)
  /-- The text of a child is the value. -/
  | content
  | element (s : Schema)
  /-- Any number of children of one name. -/
  | elements (s : Schema)
  /-- The children of a child, whatever their names. -/
  | list (s : Schema)
  /-- A field that is known but must not be there. -/
  | forbidden
end

/-- Whether no value is checked without a field in a slot. -/
def Slot.isRequired : Slot → Bool
  | .value _ presence => presence = .required
  | _ => false

def slots (s : Slot) (names : List String) : List (String × Slot) := names.map (·, s)

def optional (k : ValueKind) : List String → List (String × Slot) := slots (.value k .optional)

def needed (k : ValueKind) : List String → List (String × Slot) := slots (.value k .expected)

/-- Fields without which no value is checked. -/
def required (k : ValueKind) : List String → List (String × Slot) := slots (.value k .required)

def wrapped (k : ValueKind) : List String → List (String × Slot) := slots (.wrapped k)

def content : List String → List (String × Slot) := slots .content

def element (s : Schema) : List String → List (String × Slot) := slots (.element s)

def elements (s : Schema) : List String → List (String × Slot) := slots (.elements s)

def list (s : Schema) : List String → List (String × Slot) := slots (.list s)

def forbidden : List String → List (String × Slot) := slots .forbidden

/-- What is written for a field: a text or the lack of one, or an element. -/
inductive Given where
  | text (t : Option Text)
  | element
  deriving DecidableEq, Repr

/-- The value of a relation's identifier: one in the name space of relations goes first. -/
def relationId? (attributes : List (XmlName × Text)) : Option Text :=
  (attributes.lookup ⟨relationSpace, "id"⟩).or (attributes.lookup ⟨[], "id"⟩)

/-- What the attributes give for the fields of a record. Those of unknown name spaces are passed
over. -/
def attributesGiven (slots : List (String × Slot)) (attributes : List (XmlName × Text)) :
    List (Text × Given) :=
  let hasId := slots.any fun (name, s) => name = "id" && s matches .value .relation _
  attributes.filterMap fun (name, t) =>
    if name.space = [] then
      some (name.word, .text (some (if hasId && name.word = "id" then
        (relationId? attributes).getD t else t)))
    else if hasId && name = ⟨relationSpace, "id"⟩ then some ("id", .text (some t))
    else none

def slot? (slots : List (String × Slot)) (name : Text) : Option Slot :=
  (slots.find? (·.1.toList = name)).map (·.2)

/-- What a child gives for a field. -/
def childGiven (s : Slot) (text : Text) (attributes : List (XmlName × Text)) : Given :=
  match s with
  | .value .. | .content => .text (if text = [] then none else some text)
  | .wrapped _ => .text (attributes.lookup ⟨[], "val"⟩)
  | .element _ | .elements _ | .list _ | .forbidden => .element

/-- Whether what is given for a field may stand in its slot. -/
def Slot.check : Slot → Option Given → Except FileError Unit
  | .value k .expected, none => k.checkBlank true
  | _, none => .ok ()
  | .forbidden, some _ => .error (.flaw .mistyped)
  | _, some .element => .ok ()
  | .value k _, some (.text (some t)) => k.check t
  | .value k presence, some (.text none) => k.checkBlank (presence ≠ .optional)
  | .wrapped k, some (.text (some t)) => k.check t
  | .wrapped _, some (.text none) | .content, some (.text _) => .ok ()
  | .element _, some (.text _) | .elements _, some (.text _) | .list _, some (.text _) =>
    .error (.flaw .mistyped)

/-- Whether the fields that are given make a record. -/
def checkRecord (slots : List (String × Slot)) (given : List (Text × Given)) :
    Except FileError Unit := do
  if given.any fun (name, _) => (slot? slots name).isNone then throw (.flaw .mistyped)
  if slots.any fun (name, s) => s.isRequired && (given.lookup name.toList).isNone then
    throw (.flaw .mistyped)
  slots.forM fun (name, s) => s.check (given.lookup name.toList)

def colorSlots : List (String × Slot) :=
  optional .text ["rgb", "indexed", "auto", "theme", "tint", "index", "type"]

/-- Whether the magnitude of a number is at most one, as far as it has one. -/
def isShare : Binary64 → Bool
  | .finite _ m q => let (n, d) := Binary64.magnitude m q; n ≤ d
  | .infinite _ => false
  | .nan => true

/-- Whether the fields that are given make a colour. -/
def checkColor (given : List (Text × Given)) : Except FileError Unit := do
  checkRecord colorSlots given
  let text? (name : Text) : Option Text := match given.lookup name with
    | some (.text t) => t
    | _ => none
  match (text? "index").or (text? "indexed"), text? "theme", text? "auto", text? "rgb" with
  | some n, _, _, _ | none, some n, _, _ => ValueKind.integer.check n
  | none, none, some _, _ | none, none, none, none => pure ()
  | none, none, none, some t =>
    let digits := beforeLineFeed t
    if (digits.length = 6 ∨ digits.length = 8) ∧ digits.all isHexadecimal then pure ()
    else throw .malformed
  match (text? "tint").map float? with
  | none => pure ()
  | some none => throw (.flaw .mistyped)
  | some (some x) => if isShare x then pure () else throw .malformed

mutual
/-- Whether an element has the fields that a schema allows. -/
def Schema.check (s : Schema) : Xml → Except FileError Unit
  | .element _ attributes _ children => do
    match s with
    | .any => pure ()
    | .color =>
      checkColor ((← checkChildren colorSlots [] children) ++ attributesGiven colorSlots attributes)
    | .record slots =>
      checkRecord slots ((← checkChildren slots [] children) ++ attributesGiven slots attributes)

/-- Checks the children that are fields, and gives what they give, the last first. -/
def checkChildren (slots : List (String × Slot)) (given : List (Text × Given)) :
    List Xml → Except FileError (List (Text × Given))
  | [] => .ok given
  | .element name attributes text children :: rest => do
    match slot? slots name.word with
    | none => checkChildren slots given rest
    | some slot =>
      match slot with
      | .element s | .elements s => s.check (.element name attributes text children)
      | .list s => checkAll s children
      | .value .. | .wrapped _ | .content | .forbidden => pure ()
      checkChildren slots ((name.word, childGiven slot text attributes) :: given) rest

def checkAll (s : Schema) : List Xml → Except FileError Unit
  | [] => .ok ()
  | x :: xs => do
    s.check x
    checkAll s xs
end

/-- The value of a field of an element: the text of the last child of its name, or else that of the
attribute. -/
def field? (x : Xml) (name : Text) : Option Text :=
  match x.lastChildCalled? name with
  | some c => if c.text = [] then none else some c.text
  | none => x.plainAttribute? name

/-- The identifier of the relation that an element mentions. -/
def relationOf? (x : Xml) : Option Text :=
  match x.lastChildCalled? "id" with
  | some c => if c.text = [] then none else some c.text
  | none => relationId? x.attributes

end CellGraph.Package
