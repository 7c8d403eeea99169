import CellGraph.Codec.Zlib
import CellGraph.Proofs.Codec.Utf

/-!
# Unpacking what has been packed

Bytes are packed in stored blocks, all but the last of them full. A stored block adds its bytes to
what has been unpacked so far (`block?_block`), so the blocks give all bytes (`blocks?_blocks`), and
the checksum behind them is the one that is expected (`unpack?_pack`).
-/

namespace CellGraph

namespace Inflate

open Zlib (blockLimit twoBytes block blocks)

/-- The two bytes of a number make the number. -/
theorem twoBytes_toNat {n : Nat} (small : n ≤ blockLimit) :
    n.toUInt8.toNat + 256 * (n / 256).toUInt8.toNat = n := by
  simp only [blockLimit] at small
  rw [Utf.toNat_toUInt8 (n := n / 256) (by omega)]
  show (UInt8.ofNat n).toNat + _ = _
  rw [UInt8.toNat_ofNat']
  omega

theorem stored?_block {bytes : List UInt8} (small : bytes.length ≤ blockLimit)
    (pending : List Bool) (rest : List UInt8) (out : Array UInt8) :
    stored? ⟨pending, twoBytes bytes.length ++ twoBytes (blockLimit - bytes.length) ++ bytes ++ rest⟩
      out = some (out ++ bytes, ⟨[], rest⟩) := by
  have length := twoBytes_toNat small
  have complement := twoBytes_toNat (n := blockLimit - bytes.length) (Nat.sub_le _ _)
  have whole : bytes.length + (blockLimit - bytes.length) = 65535 ∧
      bytes.length ≤ (bytes ++ rest).length := by
    simp only [blockLimit, List.length_append] at small ⊢
    omega
  simp only [stored?, twoBytes, List.cons_append, List.nil_append, length, complement,
    if_pos whole, List.take_left, List.drop_left]

/-- A stored block is read as its bytes, and tells whether it is the last. -/
theorem block?_block {bytes : List UInt8} (small : bytes.length ≤ blockLimit) (last : Bool)
    (rest : List UInt8) (out : Array UInt8) :
    block? ⟨[], block last bytes ++ rest⟩ out = some (last, out ++ bytes, ⟨[], rest⟩) := by
  have mark (tail : List UInt8) :
      (⟨[], (if last then 1 else 0) :: tail⟩ : BitSource).bit? =
        some (last, ⟨List.replicate 7 false, tail⟩) := by
    cases last <;> rfl
  have kind (tail : List UInt8) :
      (⟨List.replicate 7 false, tail⟩ : BitSource).number? 2 =
        some (0, ⟨List.replicate 5 false, tail⟩) := rfl
  have read := stored?_block small (List.replicate 5 false) rest out
  simp only [block?, block, List.cons_append, mark, kind, contents?, read, Option.bind_eq_bind,
    Option.bind_some, Option.pure_def]

theorem blocks?_of_last {s s' : BitSource} {out out' : Array UInt8}
    (read : block? s out = some (true, out', s')) : blocks? s out = some (out', s') := by
  unfold blocks?
  split
  · next failed => rw [read] at failed; cases failed
  · next found => rw [read] at found; cases found; rfl
  · next found => rw [read] at found; cases found

theorem blocks?_of_more {s s' : BitSource} {out out' : Array UInt8}
    (read : block? s out = some (false, out', s')) : blocks? s out = blocks? s' out' := by
  rw [blocks?]
  split
  · next failed => rw [read] at failed; cases failed
  · next found => rw [read] at found; cases found
  · next found => rw [read] at found; cases found; rfl

/-- The blocks of bytes are read up to the last, and what follows them is left. -/
theorem blocks?_blocks (bytes rest : List UInt8) (out : Array UInt8) :
    blocks? ⟨[], blocks bytes ++ rest⟩ out = some (out ++ bytes, ⟨[], rest⟩) := by
  fun_induction blocks bytes generalizing out with
  | case1 bytes small => exact blocks?_of_last (block?_block small true rest out)
  | case2 bytes large ih =>
    have full : (bytes.take blockLimit).length ≤ blockLimit := List.length_take_le ..
    have first := block?_block full false (blocks (bytes.drop blockLimit) ++ rest) out
    have joined : out ++ bytes.take blockLimit ++ bytes.drop blockLimit = out ++ bytes := by
      apply Array.toList_inj.1
      simp
    rw [List.append_assoc, blocks?_of_more first, ih, joined]

end Inflate

namespace Zlib

/-- Packing loses nothing. -/
theorem unpack?_pack (bytes : List UInt8) : unpack? (pack bytes) = some bytes := by
  have read := Inflate.blocks?_blocks bytes (fourBytes (checksum bytes)) #[]
  have header : (0x78 : UInt8) % 16 = 8 ∧ (0x78 : UInt8) / 16 ≤ 7 ∧
      ((0x78 : UInt8).toNat * 256 + (0x01 : UInt8).toNat) % 31 = 0 ∧ (0x01 : UInt8) / 32 % 2 = 0 := by
    decide
  have whole : ((#[] : Array UInt8) ++ bytes).toList = bytes := by simp
  have check : (fourBytes (checksum bytes)).take 4 = fourBytes (checksum bytes) := rfl
  simp only [pack, unpack?, List.cons_append, if_pos header, read, whole, check, if_true]

end Zlib
end CellGraph
