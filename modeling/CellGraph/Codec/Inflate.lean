import CellGraph.Codec.Huffman

/-!
# Deflated data

A stream of blocks, each stored as it is or compressed with prefix codes: literal bytes, and
copies of bytes that came out before. The last block is marked.
-/

namespace CellGraph.Inflate

/-- The codes of a compressed block: for literals and lengths, and for distances. -/
structure Codes where
  literals : PrefixCode
  distances : PrefixCode
  deriving Repr

/-- The least copy lengths of the length symbols, with the number of bits that are added. -/
def lengthTable : List (Nat × Nat) := [
  (3, 0), (4, 0), (5, 0), (6, 0), (7, 0), (8, 0), (9, 0), (10, 0), (11, 1), (13, 1), (15, 1),
  (17, 1), (19, 2), (23, 2), (27, 2), (31, 2), (35, 3), (43, 3), (51, 3), (59, 3), (67, 4),
  (83, 4), (99, 4), (115, 4), (131, 5), (163, 5), (195, 5), (227, 5), (258, 0)]

/-- The least distances of the distance symbols, with the number of bits that are added. -/
def distanceTable : List (Nat × Nat) := [
  (1, 0), (2, 0), (3, 0), (4, 0), (5, 1), (7, 1), (9, 2), (13, 2), (17, 3), (25, 3), (33, 4),
  (49, 4), (65, 5), (97, 5), (129, 6), (193, 6), (257, 7), (385, 7), (513, 8), (769, 8),
  (1025, 9), (1537, 9), (2049, 10), (3073, 10), (4097, 11), (6145, 11), (8193, 12), (12289, 12),
  (16385, 13), (24577, 13)]

/-- A number of a table, with the bits that are added to it. -/
def lookUp? (table : List (Nat × Nat)) (symbol : Nat) (s : BitSource) :
    Option (Nat × BitSource) := do
  let (least, width) ← table[symbol]?
  let (more, s) ← s.number? width
  return (least + more, s)

/-- Copies bytes from a distance behind the end, one by one, so that a copy may overlap itself. -/
def copy (distance : Nat) : Nat → Array UInt8 → Array UInt8
  | 0, out => out
  | n + 1, out => copy distance n (out.push (out.getD (out.size - distance) 0))

/-- One step of a compressed block: the output with what the next symbol adds, or `none` in its
place at the end of the block. -/
def symbol? (codes : Codes) (s : BitSource) (out : Array UInt8) :
    Option (Option (Array UInt8) × BitSource) := do
  let (symbol, s) ← codes.literals.symbol? s
  if symbol < 256 then return (some (out.push symbol.toUInt8), s)
  else if symbol = 256 then return (none, s)
  else
    let (length, s) ← lookUp? lengthTable (symbol - 257) s
    let (symbol, s) ← codes.distances.symbol? s
    let (distance, s) ← lookUp? distanceTable symbol s
    if out.size < distance then none
    else return (some (copy distance length out), s)

theorem size_lookUp? {table : List (Nat × Nat)} {symbol n : Nat} {s s' : BitSource}
    (h : lookUp? table symbol s = some (n, s')) : s'.size ≤ s.size := by
  simp only [lookUp?, Option.bind_eq_bind, Option.bind_eq_some_iff, Option.pure_def] at h
  obtain ⟨⟨least, width⟩, _, ⟨more, s₁⟩, taken, same⟩ := h
  cases same
  have less := BitSource.size_number? taken
  dsimp only at less ⊢
  omega

theorem size_symbol? {codes : Codes} {s s' : BitSource} {out : Array UInt8}
    {out' : Option (Array UInt8)} (h : symbol? codes s out = some (out', s')) :
    s'.size < s.size := by
  simp only [symbol?, Option.bind_eq_bind, Option.bind_eq_some_iff] at h
  obtain ⟨⟨symbol, s₁⟩, first, h⟩ := h
  have less₁ := PrefixCode.size_symbol? first
  dsimp only at h
  split at h
  · cases h; exact less₁
  · split at h
    · cases h; exact less₁
    · simp only [Option.bind_eq_some_iff] at h
      obtain ⟨⟨length, s₂⟩, second, ⟨symbol', s₃⟩, third, ⟨distance, s₄⟩, fourth, h⟩ := h
      have less₂ := size_lookUp? second
      have less₃ := PrefixCode.size_symbol? third
      have less₄ := size_lookUp? fourth
      dsimp only at h less₃ less₄
      split at h
      · simp at h
      · cases h; omega

/-- The symbols of a compressed block up to its end. -/
def symbols? (codes : Codes) (s : BitSource) (out : Array UInt8) :
    Option (Array UInt8 × BitSource) :=
  match _taken : symbol? codes s out with
  | none => none
  | some (none, s) => some (out, s)
  | some (some out, s) => symbols? codes s out
termination_by s.size
decreasing_by exact size_symbol? _taken

/-- The codes of blocks that bring none of their own. -/
def fixedCodes? : Option Codes := do
  let literals ← PrefixCode.ofLengths? true
    (List.replicate 144 8 ++ List.replicate 112 9 ++ List.replicate 24 7 ++ List.replicate 8 8)
  let distances ← PrefixCode.ofLengths? true (List.replicate 32 5)
  return ⟨literals, distances⟩

/-- The order in which the lengths of the code for code lengths are given. -/
def lengthOrder : List Nat := [16, 17, 18, 0, 8, 7, 9, 6, 10, 5, 11, 4, 12, 3, 13, 2, 14, 1, 15]

def triples? : Nat → BitSource → Option (List Nat × BitSource)
  | 0, s => some ([], s)
  | n + 1, s => do
    let (first, s) ← s.number? 3
    let (rest, s) ← triples? n s
    return (first :: rest, s)

/-- Code lengths in reverse, up to `total`: a symbol below 16 is a length, the others repeat the
last length or zero. Each symbol adds a length, so that `total` steps suffice. -/
def lengths? (code : PrefixCode) (total : Nat) :
    Nat → List Nat → BitSource → Option (List Nat × BitSource)
  | steps, done, s =>
    if total ≤ done.length then (if done.length = total then some (done, s) else none)
    else match steps with
      | 0 => none
      | steps + 1 => do
        let (symbol, s) ← code.symbol? s
        if symbol < 16 then lengths? code total steps (symbol :: done) s
        else if symbol = 16 then
          let last ← done.head?
          let (more, s) ← s.number? 2
          lengths? code total steps (List.replicate (3 + more) last ++ done) s
        else if symbol = 17 then
          let (more, s) ← s.number? 3
          lengths? code total steps (List.replicate (3 + more) 0 ++ done) s
        else
          let (more, s) ← s.number? 7
          lengths? code total steps (List.replicate (11 + more) 0 ++ done) s

/-- The codes that a block brings with it. The end of the block must have a word. -/
def ownCodes? (s : BitSource) : Option (Codes × BitSource) := do
  let (literalCount, s) ← s.number? 5
  let (distanceCount, s) ← s.number? 5
  let (lengthCount, s) ← s.number? 4
  let literalCount := literalCount + 257
  let distanceCount := distanceCount + 1
  if 286 < literalCount || 30 < distanceCount then none
  let (given, s) ← triples? (lengthCount + 4) s
  let code ← PrefixCode.ofLengths? true
    ((List.range 19).map fun i => ((lengthOrder.zip given).lookup i).getD 0)
  let total := literalCount + distanceCount
  let (done, s) ← lengths? code total total [] s
  let lengths := done.reverse
  if lengths.getD 256 0 = 0 then none
  let literals ← PrefixCode.ofLengths? false (lengths.take literalCount)
  let distances ← PrefixCode.ofLengths? false (lengths.drop literalCount)
  return (⟨literals, distances⟩, s)

/-- A stored block: its length, the complement of the length, and its bytes. -/
def stored? (s : BitSource) (out : Array UInt8) : Option (Array UInt8 × BitSource) :=
  match s.bytes with
  | a :: b :: c :: d :: rest =>
    let length := a.toNat + 256 * b.toNat
    if length + (c.toNat + 256 * d.toNat) = 65535 ∧ length ≤ rest.length then
      some (out ++ rest.take length, ⟨[], rest.drop length⟩)
    else none
  | _ => none

/-- The contents of a block of a kind. -/
def contents? (kind : Nat) (s : BitSource) (out : Array UInt8) :
    Option (Array UInt8 × BitSource) :=
  match kind with
  | 0 => stored? s out
  | 1 => do
    let codes ← fixedCodes?
    symbols? codes s out
  | 2 => do
    let (codes, s) ← ownCodes? s
    symbols? codes s out
  | _ => none

/-- One block: whether it is the last, the output after it, and what follows. -/
def block? (s : BitSource) (out : Array UInt8) : Option (Bool × Array UInt8 × BitSource) := do
  let (last, s) ← s.bit?
  let (kind, s) ← s.number? 2
  let (out, s) ← contents? kind s out
  return (last, out, s)

/-! ## Every block takes bits -/

theorem size_symbols? {codes : Codes} {s s' : BitSource} {out out' : Array UInt8}
    (h : symbols? codes s out = some (out', s')) : s'.size < s.size := by
  fun_induction symbols? codes s out with
  | case1 => simp at h
  | case2 s out s₁ taken => cases h; exact size_symbol? taken
  | case3 s out out₁ s₁ taken ih => exact Nat.lt_trans (ih h) (size_symbol? taken)

theorem size_triples? {n : Nat} {ns : List Nat} {s s' : BitSource}
    (h : triples? n s = some (ns, s')) : s'.size ≤ s.size := by
  induction n generalizing s ns with
  | zero => cases h; exact Nat.le_refl _
  | succ n ih =>
    simp only [triples?, Option.bind_eq_bind, Option.bind_eq_some_iff, Option.pure_def] at h
    obtain ⟨⟨first, s₁⟩, taken, ⟨rest, s₂⟩, others, same⟩ := h
    cases same
    have less := BitSource.size_number? taken
    have less' := ih others
    dsimp only at less less' ⊢
    omega

theorem size_lengths? {code : PrefixCode} {total steps : Nat} {done done' : List Nat}
    {s s' : BitSource} (h : lengths? code total steps done s = some (done', s')) :
    s'.size ≤ s.size := by
  induction steps generalizing done s with
  | zero =>
    unfold lengths? at h
    split at h
    · split at h
      · cases h; exact Nat.le_refl _
      · simp at h
    · simp at h
  | succ steps ih =>
    unfold lengths? at h
    split at h
    · split at h
      · cases h; exact Nat.le_refl _
      · simp at h
    · simp only [Option.bind_eq_bind, Option.bind_eq_some_iff] at h
      obtain ⟨⟨symbol, s₁⟩, first, h⟩ := h
      have less := PrefixCode.size_symbol? first
      dsimp only at h
      split at h
      · have rest := ih h; omega
      · split at h
        · simp only [Option.bind_eq_some_iff] at h
          obtain ⟨last, _, ⟨more, s₂⟩, taken, h⟩ := h
          have less' := BitSource.size_number? taken
          have rest := ih h
          dsimp only at less' rest
          omega
        · split at h <;>
          · simp only [Option.bind_eq_some_iff] at h
            obtain ⟨⟨more, s₂⟩, taken, h⟩ := h
            have less' := BitSource.size_number? taken
            have rest := ih h
            dsimp only at less' rest
            omega

theorem size_ownCodes? {s s' : BitSource} {codes : Codes}
    (h : ownCodes? s = some (codes, s')) : s'.size ≤ s.size := by
  simp only [ownCodes?, Option.bind_eq_bind, Option.bind_eq_some_iff] at h
  obtain ⟨⟨literalCount, s₁⟩, h₁, ⟨distanceCount, s₂⟩, h₂, ⟨lengthCount, s₃⟩, h₃, h⟩ := h
  have less₁ := BitSource.size_number? h₁
  have less₂ := BitSource.size_number? h₂
  have less₃ := BitSource.size_number? h₃
  dsimp only at h less₂ less₃
  split at h
  · simp at h
  · simp only [Option.bind_eq_some_iff] at h
    obtain ⟨⟨given, s₄⟩, h₄, code, _, ⟨done, s₅⟩, h₅, h⟩ := h
    have less₄ := size_triples? h₄
    have less₅ := size_lengths? h₅
    dsimp only at h less₄ less₅
    split at h
    · simp at h
    · simp only [Option.bind_eq_some_iff, Option.pure_def] at h
      obtain ⟨literals, _, distances, _, same⟩ := h
      cases same
      omega

theorem size_stored? {s s' : BitSource} {out out' : Array UInt8}
    (h : stored? s out = some (out', s')) : s'.size ≤ s.size := by
  unfold stored? at h
  split at h
  · next bytes =>
    dsimp only at h
    split at h
    · cases h
      simp only [BitSource.size, bytes, List.length_cons, List.length_nil, List.length_drop]
      omega
    · simp at h
  · simp at h

theorem size_contents? {kind : Nat} {s s' : BitSource} {out out' : Array UInt8}
    (h : contents? kind s out = some (out', s')) : s'.size ≤ s.size := by
  unfold contents? at h
  split at h
  · exact size_stored? h
  · simp only [Option.bind_eq_bind, Option.bind_eq_some_iff] at h
    obtain ⟨codes, _, h⟩ := h
    exact Nat.le_of_lt (size_symbols? h)
  · simp only [Option.bind_eq_bind, Option.bind_eq_some_iff] at h
    obtain ⟨⟨codes, s₁⟩, own, h⟩ := h
    exact Nat.le_trans (Nat.le_of_lt (size_symbols? h)) (size_ownCodes? own)
  · simp at h

/-- A block takes at least the bit that says whether it is the last. -/
theorem size_block? {s s' : BitSource} {out out' : Array UInt8} {last : Bool}
    (h : block? s out = some (last, out', s')) : s'.size < s.size := by
  simp only [block?, Option.bind_eq_bind, Option.bind_eq_some_iff, Option.pure_def] at h
  obtain ⟨⟨b, s₁⟩, h₁, ⟨kind, s₂⟩, h₂, ⟨out₁, s₃⟩, h₃, same⟩ := h
  cases same
  have less₁ := BitSource.size_bit? h₁
  have less₂ := BitSource.size_number? h₂
  have less₃ := size_contents? h₃
  dsimp only at less₂ less₃ ⊢
  omega

/-- All blocks up to the last: what they hold, and the source behind them. -/
def blocks? (s : BitSource) (out : Array UInt8) : Option (Array UInt8 × BitSource) :=
  match _taken : block? s out with
  | none => none
  | some (true, out, s) => some (out, s)
  | some (false, out, s) => blocks? s out
termination_by s.size
decreasing_by exact size_block? _taken

end CellGraph.Inflate
