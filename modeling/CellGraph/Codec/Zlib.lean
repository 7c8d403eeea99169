import CellGraph.Codec.Inflate

/-!
# Packed bytes

Deflated data between a header of two bytes and a checksum of four. Bytes are packed in stored
blocks; anything that the format allows is unpacked.
-/

namespace CellGraph.Zlib

def checksumModulus : Nat := 65521

/-- The sum of all bytes plus one, and above it the sum of these sums. -/
def checksum (bytes : List UInt8) : Nat :=
  let (a, b) := bytes.foldl
    (fun (a, b) byte =>
      let a := (a + byte.toNat) % checksumModulus
      (a, (b + a) % checksumModulus)) (1, 0)
  b * 65536 + a

/-- The four bytes of a number, the highest first. -/
def fourBytes (n : Nat) : List UInt8 :=
  [(n / 16777216).toUInt8, (n / 65536).toUInt8, (n / 256).toUInt8, n.toUInt8]

/-- The most bytes of a stored block. -/
def blockLimit : Nat := 65535

/-- The two bytes of a number, the lower first. -/
def twoBytes (n : Nat) : List UInt8 := [n.toUInt8, (n / 256).toUInt8]

def block (last : Bool) (bytes : List UInt8) : List UInt8 :=
  (if last then 1 else 0) :: twoBytes bytes.length ++ twoBytes (blockLimit - bytes.length) ++ bytes

def blocks (bytes : List UInt8) : List UInt8 :=
  if bytes.length ≤ blockLimit then block true bytes
  else block false (bytes.take blockLimit) ++ blocks (bytes.drop blockLimit)
termination_by bytes.length
decreasing_by simp only [List.length_drop, blockLimit] at *; omega

def pack (bytes : List UInt8) : List UInt8 :=
  0x78 :: 0x01 :: blocks bytes ++ fourBytes (checksum bytes)

/-- The bytes that were packed; none if the header, a block or the checksum is wrong. -/
def unpack? : List UInt8 → Option (List UInt8)
  | method :: flags :: rest =>
    if method % 16 = 8 ∧ method / 16 ≤ 7 ∧ (method.toNat * 256 + flags.toNat) % 31 = 0 ∧
        flags / 32 % 2 = 0 then
      match Inflate.blocks? ⟨[], rest⟩ #[] with
      | some (out, s) =>
        if s.bytes.take 4 = fourBytes (checksum out.toList) then some out.toList else none
      | none => none
    else none
  | _ => none

end CellGraph.Zlib
