import CellGraph.Proofs.Dialect.Spelling
import CellGraph.Proofs.Expr.Area

/-!
# Printed references

The references that are made for the cells of a range are printed and read again. Whatever the sheet
is called, each of them is read back as it was made, alone and in a row with plus signs between them
(`references_read_back`).
-/

namespace CellGraph

namespace Node

theorem joined_single (ns : List Node) :
    joined (ns.map fun n => [n]) = ns.intersperse (operator '+') := by
  induction ns with
  | nil => rfl
  | cons n ns ih =>
    cases ns with
    | nil => simp [joined]
    | cons m ns =>
      rw [List.intersperse_cons_cons, ← ih, List.map_cons, List.map_cons, joined,
        List.intercalate_cons_cons]
      rfl

theorem properAll_refs {rs : List Ref} (formed : ∀ r ∈ rs, r.Formed) :
    ProperAll (joined (rs.map fun r => [.ref r])) := by
  refine properAll_joined fun t member => ?_
  obtain ⟨r, inside, rfl⟩ := List.mem_map.1 member
  exact properAll_single (formed r inside)

end Node

namespace Parser

open Node (textAll joined operator)

/-- References with plus signs between them are read back in their order. -/
theorem parse_intercalate_refs {rs : List Ref} (formed : ∀ r ∈ rs, r.Formed) :
    parse (List.intercalate ['+'] (rs.map (·.text))) =
      (rs.map Node.ref).intersperse (operator '+') := by
  have read := parse_textAll_of_proper (Node.properAll_refs formed)
  have texts : textAll (joined (rs.map fun r => [.ref r])) =
      List.intercalate ['+'] (rs.map (·.text)) := by
    rw [Node.textAll_joined, List.map_map]
    congr 1
    exact List.map_congr_left fun r _ => Node.textAll_ref r
  rw [texts] at read
  rw [read, ← Node.joined_single, List.map_map]
  rfl

/-- References that are made for addresses of capitals and digits, each without a sheet or on one
with any name that is not empty. The text of such a reference is read as that reference alone, with
the sheet, the address and the text that it was made with; and their texts with plus signs between
them are read as the same references in the same order with plus signs between them. -/
theorem references_read_back {cells : List (Text × Option Text)}
    (shapes : ∀ c ∈ cells, ∃ column row, Ref.IsColumn column ∧ Ref.IsRow row ∧ c.1 = column ++ row)
    (named : ∀ c ∈ cells, c.2 ≠ some []) :
    (∀ c ∈ cells, parse (Ref.make c.1 c.2).text = [.ref ⟨c.2, c.1, (Ref.make c.1 c.2).text⟩]) ∧
    parse (List.intercalate ['+'] (cells.map fun c => (Ref.make c.1 c.2).text)) =
      (cells.map fun c => .ref ⟨c.2, c.1, (Ref.make c.1 c.2).text⟩).intersperse
        (.leaf (.op ['+'])) := by
  have formed : ∀ c ∈ cells, (Ref.make c.1 c.2).Formed := by
    intro c member
    obtain ⟨column, row, letters, digits, address⟩ := shapes c member
    have shape : Ref.IsAddress c.1 c.1 := by
      simpa [address] using Ref.IsAddress.intro (.inl rfl) letters (.inl rfl) digits
    exact Ref.formed_make shape (named c member)
  simp only [← Ref.make_eq]
  refine ⟨fun c member => parse_text_ref (formed c member), ?_⟩
  have allFormed : ∀ r ∈ cells.map fun c => Ref.make c.1 c.2, r.Formed := List.forall_mem_map.2 formed
  have read := parse_intercalate_refs allFormed
  simpa [Function.comp_def] using read

/-- No sheet, and sheets that are called like an address, like a number, like another reference, and
by quotes alone. -/
def awkwardCells : List (Text × Option Text) :=
  [("A1", none), ("ZZZ007", some "A1"), ("B2", some "1e5"), ("C3", some "x'!A1+'y"), ("D4", some "''")]

theorem references_read_back_awkward :
    parse "A1+A1!ZZZ007+1e5!B2+'x''!A1+''y'!C3+''''''!D4" =
      [.ref ⟨none, "A1", "A1"⟩, .leaf (.op ['+']), .ref ⟨some "A1", "ZZZ007", "A1!ZZZ007"⟩,
        .leaf (.op ['+']), .ref ⟨some "1e5", "B2", "1e5!B2"⟩, .leaf (.op ['+']),
        .ref ⟨some "x'!A1+'y", "C3", "'x''!A1+''y'!C3"⟩, .leaf (.op ['+']),
        .ref ⟨some "''", "D4", "''''''!D4"⟩] := by
  have column : ∀ t : Text, t ≠ [] → t.length ≤ 3 → t.all Char.isUpper → Ref.IsColumn t :=
    fun _ some_letter short letters => ⟨some_letter, short, List.all_eq_true.1 letters⟩
  have row : ∀ t : Text, t ≠ [] → t.all Char.isDigit → Ref.IsRow t :=
    fun _ some_digit digits => ⟨some_digit, List.all_eq_true.1 digits⟩
  have shapes : ∀ c ∈ awkwardCells,
      ∃ column row, Ref.IsColumn column ∧ Ref.IsRow row ∧ c.1 = column ++ row := by
    simp only [awkwardCells, List.forall_mem_cons]
    refine ⟨⟨"A", "1", column _ ?_ ?_ ?_, row _ ?_ ?_, ?_⟩,
      ⟨"ZZZ", "007", column _ ?_ ?_ ?_, row _ ?_ ?_, ?_⟩,
      ⟨"B", "2", column _ ?_ ?_ ?_, row _ ?_ ?_, ?_⟩,
      ⟨"C", "3", column _ ?_ ?_ ?_, row _ ?_ ?_, ?_⟩,
      ⟨"D", "4", column _ ?_ ?_ ?_, row _ ?_ ?_, ?_⟩, by simp⟩ <;> decide
  exact (references_read_back shapes (by decide)).2

end Parser

end CellGraph
