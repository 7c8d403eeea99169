import CellGraph.Text.Basic

/-!
# Base64

Bytes as text in the alphabet that is safe in addresses, three bytes to four characters. Reading
accepts the standard alphabet too, skips characters of neither, and stops at padding that
completes a group.
-/

namespace CellGraph.Base64

/-- The characters of the digits 0 to 63. -/
def alphabet : Text := "ABCDEFGHIJKLMNOPQRSTUVWXYZabcdefghijklmnopqrstuvwxyz0123456789-_"

def charOf (n : Nat) : Char := alphabet.getD n '='

def digit? (c : Char) : Option Nat :=
  if c.isUpper then some (c.toNat - 65)
  else if c.isLower then some (c.toNat - 71)
  else if c.isDigit then some (c.toNat + 4)
  else if c = '-' || c = '+' then some 62
  else if c = '_' || c = '/' then some 63
  else none

/-- Bytes as text; the last group is padded with equals signs. -/
def encode : List UInt8 → Text
  | a :: b :: c :: rest =>
    let n := a.toNat * 65536 + b.toNat * 256 + c.toNat
    charOf (n / 262144) :: charOf (n / 4096 % 64) :: charOf (n / 64 % 64) :: charOf (n % 64) ::
      encode rest
  | [a, b] =>
    let n := a.toNat * 1024 + b.toNat * 4
    [charOf (n / 4096), charOf (n / 64 % 64), charOf (n % 64), '=']
  | [a] =>
    let n := a.toNat * 16
    [charOf (n / 64), charOf (n % 64), '=', '=']
  | [] => []

/-- Reads text inside a group: the digits of the group so far, the bits of them that are not yet
in a byte, and the padding since the last digit. The end must complete a group. -/
def decodeFrom (digits left padding : Nat) : Text → Option (List UInt8)
  | [] => if digits = 0 then some [] else none
  | c :: t =>
    if c = '=' then
      if digits < 2 then decodeFrom digits left padding t
      else if 4 ≤ digits + padding + 1 then some []
      else decodeFrom digits left (padding + 1) t
    else match digit? c with
      | none => decodeFrom digits left padding t
      | some n =>
        match digits with
        | 0 => decodeFrom 1 n 0 t
        | 1 => (decodeFrom 2 (n % 16) 0 t).map (UInt8.ofNat (left * 4 + n / 16) :: ·)
        | 2 => (decodeFrom 3 (n % 4) 0 t).map (UInt8.ofNat (left * 16 + n / 4) :: ·)
        | _ => (decodeFrom 0 0 0 t).map (UInt8.ofNat (left * 64 + n) :: ·)

/-- The bytes of a text; none if its last group is not complete. -/
def decode? (t : Text) : Option (List UInt8) := decodeFrom 0 0 0 t

example : encode [0xFB, 0xFF, 0xBF, 1] = "-_-_AQ==".toList := by decide
example : decode? "-/+_AQ==" = some [0xFB, 0xFF, 0xBF, 1] := by decide

end CellGraph.Base64
