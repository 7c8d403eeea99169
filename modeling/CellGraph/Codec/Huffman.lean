import CellGraph.Codec.Bits

/-!
# Canonical codes

A prefix code given by the lengths of its code words. Words of one length follow each other in the
order of their symbols, and each length goes on where the shorter ones end.
-/

namespace CellGraph

/-- A prefix code: how many words there are of each length from 1 to 15, and the symbols in the
order of their words. -/
structure PrefixCode where
  counts : List Nat
  symbols : Array Nat
  deriving Repr

namespace PrefixCode

def longest : Nat := 15

/-- The words that are still free at a length when words of the lengths up to it are taken; none
if too many are. -/
def free? (free : Nat) : List Nat → Option Nat
  | [] => some free
  | count :: counts => if 2 * free < count then none else free? (2 * free - count) counts

/-- The code whose symbols have the given lengths; a length of zero leaves a symbol out. Not too
many words may be taken, and where `complete` is set none may be left free, unless the code has no
word at all. A code with words of length 1 only may always leave one free otherwise. -/
def ofLengths? (complete : Bool) (lengths : List Nat) : Option PrefixCode :=
  let counts := (List.range longest).map fun k => lengths.count (k + 1)
  let symbols := (List.range longest).flatMap fun k =>
    (List.range lengths.length).filter fun i => lengths.getD i 0 = k + 1
  match free? 1 counts with
  | none => none
  | some free =>
    let words := symbols.length
    if 0 < free && 0 < words && (complete || (counts.drop 1).any (0 < ·)) then none
    else some ⟨counts, symbols.toArray⟩

/-- Reads the word of a symbol, given the number of words of each longer length, the bits so
far, the first word of their length, and how many symbols have shorter words. -/
def symbolFrom? (symbols : Array Nat) (word first shorter : Nat) :
    List Nat → BitSource → Option (Nat × BitSource)
  | [], _ => none
  | count :: counts, s => do
    let (b, s) ← s.bit?
    let word := 2 * word + b.toNat
    if word < first + count then
      let symbol ← symbols[shorter + (word - first)]?
      return (symbol, s)
    else symbolFrom? symbols word (2 * (first + count)) (shorter + count) counts s

def symbol? (c : PrefixCode) (s : BitSource) : Option (Nat × BitSource) :=
  symbolFrom? c.symbols 0 0 0 c.counts s

theorem size_symbolFrom? {symbols : Array Nat} {word first shorter n : Nat} {counts : List Nat}
    {s s' : BitSource} (h : symbolFrom? symbols word first shorter counts s = some (n, s')) :
    s'.size < s.size := by
  induction counts generalizing word first shorter s with
  | nil => simp [symbolFrom?] at h
  | cons count counts ih =>
    simp only [symbolFrom?, Option.bind_eq_bind, Option.bind_eq_some_iff] at h
    obtain ⟨⟨b, s₁⟩, taken, h⟩ := h
    have less := BitSource.size_bit? taken
    dsimp only at less h
    split at h
    · simp only [Option.bind_eq_some_iff, Option.pure_def] at h
      obtain ⟨symbol, _, same⟩ := h
      cases same
      omega
    · have rest := ih h
      omega

theorem size_symbol? {c : PrefixCode} {n : Nat} {s s' : BitSource}
    (h : c.symbol? s = some (n, s')) : s'.size < s.size := size_symbolFrom? h

end PrefixCode
end CellGraph
