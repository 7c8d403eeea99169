import CellGraph.Text.CaseFold
import CellGraph.Text.Cased

/-!
# Small letters

The form of a text in small letters. A capital letter becomes small as in case folding, but small
letters stay as they are, and capitals with a small form of their own take that. The Greek letter
sigma has a second small form at the end of a word.
-/

namespace CellGraph.Text

/-- First and last code points of the runs of small letters that case folding changes. -/
def smallRuns : List (Nat × Nat) := [
  (0xB5, 0xB5), (0xDF, 0xDF), (0x149, 0x149), (0x17F, 0x17F), (0x1F0, 0x1F0), (0x345, 0x345),
  (0x390, 0x390), (0x3B0, 0x3B0), (0x3C2, 0x3C2), (0x3D0, 0x3D1), (0x3D5, 0x3D6), (0x3F0, 0x3F1),
  (0x3F5, 0x3F5), (0x587, 0x587), (0x13F8, 0x13FD), (0x1C80, 0x1C88), (0x1E96, 0x1E9B),
  (0x1F50, 0x1F50), (0x1F52, 0x1F52), (0x1F54, 0x1F54), (0x1F56, 0x1F56), (0x1F80, 0x1F87),
  (0x1F90, 0x1F97), (0x1FA0, 0x1FA7), (0x1FB2, 0x1FB4), (0x1FB6, 0x1FB7), (0x1FBE, 0x1FBE),
  (0x1FC2, 0x1FC4), (0x1FC6, 0x1FC7), (0x1FD2, 0x1FD3), (0x1FD6, 0x1FD7), (0x1FE2, 0x1FE4),
  (0x1FE6, 0x1FE7), (0x1FF2, 0x1FF4), (0x1FF6, 0x1FF7), (0xAB70, 0xABBF), (0xFB00, 0xFB06),
  (0xFB13, 0xFB17)]

/-- Runs of capital letters whose small forms differ from their case foldings: first and last code
point, and distance to the small form. -/
def capitalRuns : List (Nat × Nat × Int) := [
  (0x13A0, 0x13EF, 38864), (0x13F0, 0x13F5, 8), (0x1E9E, 0x1E9E, -7615), (0x1F88, 0x1F8F, -8),
  (0x1F98, 0x1F9F, -8), (0x1FA8, 0x1FAF, -8), (0x1FBC, 0x1FBC, -9), (0x1FCC, 0x1FCC, -9),
  (0x1FFC, 0x1FFC, -9)]

/-- The small form of a character that stands alone. -/
def lowerChar (c : Char) : Text :=
  if c.toNat < 0x80 then [c.toLower]
  else if isInRuns smallRuns c then [c]
  else match capitalRuns.find? fun (first, last, _) => first ≤ c.toNat && c.toNat ≤ last with
    | some (_, _, distance) => [Char.ofNat (c.toNat + distance).toNat]
    | none => foldChar c

/-- Whether the first character that is not passed over is a letter with case. -/
def startsCased (t : Text) : Bool := (t.find? (!isPassedOver ·)).any isCased

/-- The small form of a text that follows other characters, given backwards. A sigma ends a word if
a letter stands before it and none behind it. -/
def lowerAfter (before : Text) : Text → Text
  | [] => []
  | c :: t =>
    if c = 'Σ' then
      (if startsCased before && !startsCased t then 'ς' else 'σ') :: lowerAfter (c :: before) t
    else lowerChar c ++ lowerAfter (c :: before) t

def lowerCase (t : Text) : Text := lowerAfter [] t

/-- Groups of small letters that share a capital letter. -/
def letterGroups : List (List Nat) := [
  [0x69, 0x131], [0x73, 0x17F], [0xB5, 0x3BC], [0x345, 0x3B9, 0x1FBE], [0x390, 0x1FD3],
  [0x3B0, 0x1FE3], [0x3B2, 0x3D0], [0x3B5, 0x3F5], [0x3B8, 0x3D1], [0x3BA, 0x3F0],
  [0x3C0, 0x3D6], [0x3C1, 0x3F1], [0x3C2, 0x3C3], [0x3C6, 0x3D5], [0x432, 0x1C80],
  [0x434, 0x1C81], [0x43E, 0x1C82], [0x441, 0x1C83], [0x442, 0x1C84, 0x1C85], [0x44A, 0x1C86],
  [0x463, 0x1C87], [0x1C88, 0xA64B], [0x1E61, 0x1E9B], [0xFB05, 0xFB06]]

/-- Whether two characters are one letter in either case. Of a small form of several characters only
the first counts. -/
def sameLetter (a b : Char) : Bool :=
  let first (c : Char) : Char := (lowerChar c).headD c
  first a = first b || letterGroups.any fun g =>
    g.contains (first a).toNat && g.contains (first b).toNat

example : lowerCase "ΟΔΟΣ ΑΣ-Σ" = "οδος ας-σ".toList := by decide +kernel
example : lowerCase "İß" = "i\u0307ß".toList := by decide +kernel
example : sameLetter 'K' 'k' ∧ sameLetter 'S' 'ſ' ∧ ¬ sameLetter 'ß' 's' := by decide +kernel

end CellGraph.Text
