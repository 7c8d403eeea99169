import CellGraph.Codec.Inflate
import CellGraph.Codec.Utf

/-!
# Archives

An archive ends with a directory of its members and a record that says where the directory is. Each
member is stored as it is or deflated, behind a header of its own.
-/

namespace CellGraph.Zip

/-- The number in `width` bytes at a position, the lowest byte first. -/
def number? (bytes : Array UInt8) (position : Nat) : Nat → Option Nat
  | 0 => some 0
  | width + 1 => do
    let low ← bytes[position]?
    let high ← number? bytes (position + 1) width
    return low.toNat + 256 * high

def slice (bytes : Array UInt8) (position length : Nat) : List UInt8 :=
  (bytes.extract position (position + length)).toList

/-- The marks of the record at the end, of a directory entry and of a member. -/
def endMark : Nat := 0x06054B50
def entryMark : Nat := 0x02014B50
def memberMark : Nat := 0x04034B50

/-- The position of the record at the end: the last one not behind `position`. -/
def endPosition? (bytes : Array UInt8) : Nat → Option Nat
  | 0 => if number? bytes 0 4 = some endMark then some 0 else none
  | position + 1 =>
    if number? bytes (position + 1) 4 = some endMark then some (position + 1)
    else endPosition? bytes position

structure Member where
  name : List UInt8
  content : List UInt8
  deriving DecidableEq, Repr

/-- The content of a member by its packing, its packed length and the position of its header. -/
def content? (bytes : Array UInt8) (packing length position : Nat) : Option (List UInt8) := do
  if (← number? bytes position 4) ≠ memberMark then none
  let behind := 30 + (← number? bytes (position + 26) 2) + (← number? bytes (position + 28) 2)
  let packed := slice bytes (position + behind) length
  if packing = 0 then some packed
  else if packing = 8 then (Inflate.blocks? ⟨[], packed⟩ #[]).map (·.1.toList)
  else none

/-- The members in the directory at a position. -/
def members? (bytes : Array UInt8) (position : Nat) : Nat → Option (List Member)
  | 0 => some []
  | count + 1 => do
    if (← number? bytes position 4) ≠ entryMark then none
    let packing ← number? bytes (position + 10) 2
    let length ← number? bytes (position + 20) 4
    let nameLength ← number? bytes (position + 28) 2
    let extraLength ← number? bytes (position + 30) 2
    let commentLength ← number? bytes (position + 32) 2
    let start ← number? bytes (position + 42) 4
    let content ← content? bytes packing length start
    let others ← members? bytes (position + 46 + nameLength + extraLength + commentLength) count
    return ⟨slice bytes (position + 46) nameLength, content⟩ :: others

/-- The members of an archive; none if the bytes are no archive. -/
def unpack? (bytes : List UInt8) : Option (List Member) := do
  let bytes := bytes.toArray
  let record ← endPosition? bytes (bytes.size - 22)
  let count ← number? bytes (record + 10) 2
  let directory ← number? bytes (record + 16) 4
  members? bytes directory count

end CellGraph.Zip
