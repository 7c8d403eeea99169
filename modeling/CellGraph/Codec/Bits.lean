/-!
# Reading bits

Bytes as a source of bits, the least significant bit of each byte first. `size` counts the bits
that are left; every read makes it smaller by what it takes.
-/

namespace CellGraph

/-- Bits that are left: those of a byte that has been begun, then whole bytes. -/
structure BitSource where
  pending : List Bool
  bytes : List UInt8
  deriving Repr

namespace BitSource

/-- The number of bits that are left. -/
def size (s : BitSource) : Nat := s.pending.length + 8 * s.bytes.length

/-- The bits of a byte above the lowest. -/
def upperBits (b : UInt8) : List Bool :=
  let n := b.toNat
  [n.testBit 1, n.testBit 2, n.testBit 3, n.testBit 4, n.testBit 5, n.testBit 6, n.testBit 7]

def bit? : BitSource → Option (Bool × BitSource)
  | ⟨b :: pending, bytes⟩ => some (b, ⟨pending, bytes⟩)
  | ⟨[], b :: bytes⟩ => some (b.toNat.testBit 0, ⟨upperBits b, bytes⟩)
  | ⟨[], []⟩ => none

/-- A number of `width` bits, the least significant first. -/
def number? : Nat → BitSource → Option (Nat × BitSource)
  | 0, s => some (0, s)
  | width + 1, s => do
    let (b, s) ← s.bit?
    let (n, s) ← number? width s
    return (b.toNat + 2 * n, s)

theorem size_bit? {s s' : BitSource} {b : Bool} (h : s.bit? = some (b, s')) :
    s'.size + 1 = s.size := by
  unfold bit? at h
  split at h
  · cases h; simp [size]; omega
  · cases h; simp [size, upperBits]; omega
  · simp at h

theorem size_number? {width n : Nat} {s s' : BitSource} (h : s.number? width = some (n, s')) :
    s'.size + width = s.size := by
  induction width generalizing s n with
  | zero => cases h; rfl
  | succ width ih =>
    simp only [number?, Option.bind_eq_bind, Option.bind_eq_some_iff, Option.pure_def] at h
    obtain ⟨⟨b, s₁⟩, first, ⟨m, s₂⟩, rest, same⟩ := h
    cases same
    have taken := size_bit? first
    have left := ih rest
    dsimp only at taken left ⊢
    omega

end BitSource
end CellGraph
