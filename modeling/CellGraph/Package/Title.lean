import CellGraph.Package.Basic
import CellGraph.Text.Digit
import CellGraph.Text.LowerCase

/-!
# Titles of sheets

No two sheets of a workbook have one title, letter case aside: a title that is taken gets a number.
-/

namespace CellGraph.Package.Title

/-- The characters that no title may hold. -/
def isForbidden (c : Char) : Bool := ("\\*?:/[]" : Text).contains c

/-- What follows a name at the start of a text that has it in any letter case. -/
def after? : Text → Text → Option Text
  | [], t => some t
  | _ :: _, [] => none
  | c :: name, d :: t => if Text.sameLetter c d then after? name t else none

/-- The runs of digits, empty ones included, that follow a name where it occurs in a text, found
from left to right in any letter case. A comma behind the digits belongs to the occurrence; `skip`
characters still belong to the last one. -/
def numbersAfter (name : Text) (skip : Nat) : Text → List Text
  | [] => []
  | c :: t =>
    match skip with
    | n + 1 => numbersAfter name n t
    | 0 =>
      match after? name (c :: t) with
      | some rest =>
        let digits := rest.takeWhile Text.isDecimal
        let comma := if (rest.drop digits.length).head? = some ',' then 1 else 0
        digits :: numbersAfter name (name.length + digits.length + comma - 1) t
      | none => numbersAfter name 0 t

/-- A number above all in some runs of digits. -/
def above (numbers : List Text) : Nat := (numbers.map Text.natOfDigits).foldl max 0 + 1

/-- The title that a sheet gets beside those before it. A title is taken if one before has the same
small letters; the number that it gets is above all that follow it there. A title that only a
letter of several characters makes equal to another stays as it is. -/
def free (taken : List Text) (title : Text) : Text :=
  if taken.any fun t => Text.lowerCase t = Text.lowerCase title then
    match numbersAfter title 0 (Text.join [','] taken) with
    | [] => title
    | numbers => title ++ Text.ofNat (above numbers)
  else title

/-- A title as it may be given to a sheet. -/
def read (taken : List Text) (title : Text) : Except FileError Text :=
  if title.any isForbidden then .error .malformed else .ok (free taken title)

example : free ["Data", "S"] "data" = "data1".toList := by decide +kernel
example : free ["Straße"] "STRASSE" = "STRASSE".toList := by decide +kernel
example : free ["i\u0307"] "İ" = "İ1".toList ∧ free ["İ"] "i\u0307" = "i\u0307".toList := by
  decide +kernel

end CellGraph.Package.Title
