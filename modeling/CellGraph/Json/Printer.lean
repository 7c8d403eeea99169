import CellGraph.Codec.Utf
import CellGraph.Json.Basic
import CellGraph.Numeral.Notation
import CellGraph.Text.Quoted

/-!
# Writing JSON

JSON texts in printable ASCII: every other character is written as one escape, or as two for
a character outside the basic plane. A style says what follows a comma and a colon, and whether
each item starts a new line.
-/

namespace CellGraph.Json

/-- The layout of a JSON text. With an `indent`, each item stands on a line of its own, moved to
the right by that many spaces for each level. -/
structure Style where
  afterComma : Text
  afterColon : Text
  indent : Option Nat
  deriving DecidableEq, Repr

namespace Style

/-- One line, with a space after each comma and colon. -/
def spaced : Style := ⟨[' '], [' '], none⟩

def tight : Style := ⟨[], [], none⟩

/-- A line for each item, two spaces for each level. -/
def indented : Style := ⟨[], [' '], some 2⟩

/-- What separates an item from the bracket or comma before it. -/
def lineBreak (s : Style) (level : Nat) : Text :=
  match s.indent with
  | none => []
  | some width => '\n' :: List.replicate (width * level) ' '

end Style

def escape (c : Char) : Text :=
  if c = '"' then "\\\""
  else if c = '\\' then "\\\\"
  else if c = '\n' then "\\n"
  else if c = '\r' then "\\r"
  else if c = '\t' then "\\t"
  else if c = '\x08' then "\\b"
  else if c = '\x0c' then "\\f"
  else if 0x20 ≤ c.toNat && c.toNat < 0x7F then [c]
  else (Utf.units16 c).flatMap fun n => "\\u" ++ Text.hex 4 n

def stringText (t : Text) : Text := '"' :: t.flatMap escape ++ ['"']

/-- A binary number; those without a decimal form have words of their own. -/
def floatText : Binary64 → Text
  | .nan => "NaN"
  | .infinite true => "-Infinity"
  | .infinite false => "Infinity"
  | x => x.text

mutual

/-- The text of a value at a level of nesting. -/
def write (s : Style) (level : Nat) : Json → Text
  | .null => "null"
  | .bool true => "true"
  | .bool false => "false"
  | .int n => Text.ofInt n
  | .float x => floatText x
  | .string t => stringText t
  | .array [] => "[]"
  | .array (v :: vs) =>
    '[' :: s.lineBreak (level + 1) ++ write s (level + 1) v ++ writeItems s (level + 1) vs ++
      s.lineBreak level ++ [']']
  | .object [] => "\x7b\x7d"
  | .object (m :: ms) =>
    '\x7b' :: s.lineBreak (level + 1) ++ writeMember s (level + 1) m ++
      writeMembers s (level + 1) ms ++ s.lineBreak level ++ ['\x7d']

/-- The items of an array after the first. -/
def writeItems (s : Style) (level : Nat) : List Json → Text
  | [] => []
  | v :: vs =>
    ',' :: s.afterComma ++ s.lineBreak level ++ write s level v ++ writeItems s level vs

/-- The members of an object after the first. -/
def writeMembers (s : Style) (level : Nat) : List (Text × Json) → Text
  | [] => []
  | m :: ms =>
    ',' :: s.afterComma ++ s.lineBreak level ++ writeMember s level m ++ writeMembers s level ms

def writeMember (s : Style) (level : Nat) : Text × Json → Text
  | (name, v) => stringText name ++ ':' :: s.afterColon ++ write s level v

end

def text (s : Style) (v : Json) : Text := write s 0 v

end CellGraph.Json
