/-!
# Text

A text is the list of its characters. Every reader and printer of the library works on
texts; `String` appears only where a program meets its surroundings.
-/

namespace CellGraph

/-- A text: its Unicode scalar values in order. Lengths and cuts count these. -/
abbrev Text := List Char

instance : Coe String Text := ⟨String.toList⟩

namespace Text

def isWordChar (c : Char) : Bool := c.isAlphanum || c == '_'

/-- The text after `head`, if the text starts with it. -/
def after? (head : Text) : Text → Option Text := fun t =>
  if head.isPrefixOf t then some (t.drop head.length) else none

def occurs (part : Text) : Text → Bool
  | [] => part.isEmpty
  | c :: t => part.isPrefixOf (c :: t) || occurs part t

/-- Every occurrence of one character becomes another. -/
def swap (old new : Char) (t : Text) : Text := t.map fun c => if c = old then new else c

/-- Every occurrence of a character is left out. -/
def without (dropped : Char) (t : Text) : Text := t.filter (· ≠ dropped)

/-- The text without the given characters at its end. -/
def trimEnd (p : Char → Bool) (t : Text) : Text := (t.reverse.dropWhile p).reverse

/-- At most `limit` characters: a longer text is cut and closed by three dots. -/
def shorten (limit : Nat) (t : Text) : Text :=
  if limit < t.length then t.take (limit - 3) ++ "..." else t

/-- Spaces are added on the right until the text has `width` characters. -/
def padRight (width : Nat) (t : Text) : Text := t ++ List.replicate (width - t.length) ' '

/-- The parts of a text between separators: one more than there are separators. -/
def split (separator : Char) : Text → List Text
  | [] => [[]]
  | c :: t =>
    if c = separator then [] :: split separator t
    else match split separator t with
      | [] => [[c]]
      | first :: others => (c :: first) :: others

/-- Texts with a separator between each two. -/
def join (separator : Text) (parts : List Text) : Text := (parts.intersperse separator).flatten

/-- A text without the occurrences of `mark`, found from left to right; `skip` characters still
belong to the last one found. -/
def omitting (mark : Text) (skip : Nat) : Text → Text
  | [] => []
  | c :: t =>
    match skip with
    | n + 1 => omitting mark n t
    | 0 => if mark.isPrefixOf (c :: t) then omitting mark (mark.length - 1) t
      else c :: omitting mark 0 t

/-- The decimal digits of a natural number. -/
def ofNat (n : Nat) : Text := Nat.toDigits 10 n

/-- The decimal digits of an integer, after a minus sign when it is negative. -/
def ofInt : Int → Text
  | .ofNat n => ofNat n
  | .negSucc n => '-' :: ofNat (n + 1)

/-- The decimal digits of a natural number, with zeros in front up to `width` digits. -/
def ofNatPadded (width n : Nat) : Text :=
  List.replicate (width - (ofNat n).length) '0' ++ ofNat n

end Text
end CellGraph
