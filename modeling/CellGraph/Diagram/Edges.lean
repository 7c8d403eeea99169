import CellGraph.Book.Keys
import CellGraph.Grid.Basic

/-!
# Dependencies

Which cells a cell depends on is read back from the placeholders in its formula.
-/

namespace CellGraph

/-- A cell on which another depends, and that other cell. -/
structure Edge where
  source : Text
  target : Text
  deriving DecidableEq, Repr, Inhabited

namespace Edge

def opening : Text := "$\x7bmetric:"

/-- A placeholder at the start of a text: its key, which is not empty, and the rest. -/
def scanPlaceholder? (t : Text) : Option (Text × Text) :=
  match Text.after? opening t with
  | none => none
  | some t =>
    match t.takeWhile (· ≠ '\x7d'), t.dropWhile (· ≠ '\x7d') with
    | c :: key, _ :: rest => some (c :: key, rest)
    | _, _ => none

theorem length_scanPlaceholder? {t key rest : Text}
    (h : scanPlaceholder? t = some (key, rest)) : rest.length < t.length := by
  unfold scanPlaceholder? at h
  split at h
  · simp at h
  · next t' found =>
    have shorter : t'.length ≤ t.length := by
      unfold Text.after? at found
      split at found
      · cases found; simp
      · simp at found
    split at h
    · next ending =>
      cases h
      have tail := (List.dropWhile_sublist (l := t') (· ≠ '\x7d')).length_le
      rw [ending] at tail
      simp only [List.length_cons] at tail
      omega
    · simp at h

/-- The keys in the placeholders of a formula, in order. -/
def references : Text → List Text
  | [] => []
  | c :: t =>
    match _found : scanPlaceholder? (c :: t) with
    | some (key, rest) => key :: references rest
    | none => references t
termination_by t => t.length
decreasing_by
  · exact length_scanPlaceholder? _found
  · simp

/-- The edges into a cell: from every other cell of the grid whose placeholder occurs in its
formula, in the order of the grid. -/
def into (g : Grid) (c : Cell) : List Edge :=
  let keys := references c.formula
  (g.keys.filter fun key => key ≠ c.key && keys.contains key).map fun key => ⟨key, c.key⟩

/-- All edges, by the cell that depends. -/
def ofGrid (g : Grid) : List Edge := g.cells.flatMap (into g)

end Edge
end CellGraph
