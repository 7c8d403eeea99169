import CellGraph.Proofs.Expr.Corners
import CellGraph.Proofs.Keys.Written
import CellGraph.Proofs.Parsing.Subtrees

/-!
# Two readings of a range

A range stands in a formula by its two ends, and is spelled out by the cells that it covers. Its
last end and its last cell always have one placeholder. Its first end and its first cell have one
unless only the last end names a sheet: the cells lie on that sheet, the first end on the current
one (`range_placeholders`).
-/

namespace CellGraph

theorem placeholder_inj {key key' : Text} (same : placeholder key = placeholder key') :
    key = key' :=
  List.append_cancel_left (List.append_cancel_right same)

namespace SheetKeys

variable {k : SheetKeys} {r : Ref} {a b : Ref} {current name : Text} {inherited : Option Text}

/-- The placeholder that a reference becomes, if it means a cell of a known sheet. -/
def placeholder? (k : SheetKeys) (current : Text) (inherited : Option Text) (r : Ref) :
    Option Text :=
  (k.resolve? r current inherited).map placeholder

theorem wrap_eq : k.wrap current inherited r = (k.placeholder? current inherited r).getD r.text := by
  unfold wrap placeholder?
  cases k.resolve? r current inherited <;> rfl

/-! ## The sheet that counts -/

/-- A reference that names no sheet, and takes none over, means a cell of the current sheet. -/
theorem resolve?_unnamed (unnamed : r.sheet = none) : k.resolve? r current none =
    if k.several then (k.find? current).map (· ++ r.address) else some r.address := by
  simp [resolve?, unnamed]

theorem filter_ne_nil {sheet : Option Text} (some_char : sheet ≠ some []) :
    sheet.filter (· ≠ []) = sheet := by
  cases sheet with
  | none => rfl
  | some name =>
    have name_ne_nil : name ≠ [] := fun empty => some_char (by rw [empty])
    simp [Option.filter, name_ne_nil]

/-- A reference means a cell of the sheet that it names, or else of the one that it takes over. -/
theorem resolve?_named (some_char : r.sheet ≠ some []) (named : r.sheet.or inherited = some name)
    (name_ne_nil : name ≠ []) : k.resolve? r current inherited =
      (k.find? name).map fun key => if k.several then key ++ r.address else r.address := by
  have kept : (some name).filter (· ≠ []) = some name := filter_ne_nil (by simpa using name_ne_nil)
  unfold resolve?
  dsimp only
  rw [filter_ne_nil some_char, named, kept]
  by_cases several : k.several = true
  · simp only [several, if_true, Option.getD_some]
  · simp only [several, Bool.false_eq_true, if_false]

/-! ## Ends and cells -/

/-- The sheets of both ends of a range are known, and are one sheet if both ends name one. -/
structure Qualified (k : SheetKeys) (a b : Ref) : Prop where
  first : ∀ name ∈ a.sheet, ∃ sheet ∈ k.names, Text.foldCase name = Text.foldCase sheet
  last : ∀ name ∈ b.sheet, ∃ sheet ∈ k.names, Text.foldCase name = Text.foldCase sheet
  same : ∀ name ∈ a.sheet, ∀ name' ∈ b.sheet, Text.foldCase name = Text.foldCase name'

theorem Qualified.find?_sheetOf (qualified : k.Qualified a b) {name : Text}
    (named : Area.sheetOf a b = some name) : ∃ key, k.find? name = some key := by
  have found : ∃ sheet ∈ k.names, Text.foldCase name = Text.foldCase sheet := by
    rcases Option.or_eq_some_iff.1 named with first | ⟨-, last⟩
    · exact qualified.first name first
    · exact qualified.last name last
  obtain ⟨sheet, member, same⟩ := found
  rw [find?_congr k same]
  exact find?_of_mem member

/-- The sheet that the last end of a range names, or takes over, is that of the cells. -/
theorem Qualified.exists_or (qualified : k.Qualified a b)
    (named : Area.sheetOf a b = some name) :
    ∃ name', b.sheet.or a.sheet = some name' ∧ k.find? name' = k.find? name := by
  unfold Area.sheetOf at named
  cases last : b.sheet with
  | none =>
    rw [last, Option.or_none] at named
    exact ⟨name, by simpa using named, rfl⟩
  | some name' =>
    refine ⟨name', rfl, ?_⟩
    cases first : a.sheet with
    | none =>
      rw [first, last] at named
      cases named
      rfl
    | some name'' =>
      rw [first] at named
      cases named
      exact (find?_congr k (qualified.same name first name' last)).symm

variable {formula : Text}

/-- The last end of a range means the last cell that it covers. -/
theorem resolve?_last (formed : a.Formed) (formed' : b.Formed) (qualified : k.Qualified a b) :
    k.resolve? b current a.sheet =
      k.resolve? (Ref.make b.address (Area.sheetOf a b)) current none := by
  have some_char := Area.sheetOf_ne_nil formed formed'
  cases named : Area.sheetOf a b with
  | none =>
    obtain ⟨first, last⟩ := Option.or_eq_none_iff.1 named
    rw [first, resolve?_unnamed last, resolve?_unnamed (Ref.make_sheet _ _), Ref.make_address]
  | some name =>
    obtain ⟨name', named', same⟩ := qualified.exists_or named
    have some_char' : b.sheet.or a.sheet ≠ some [] := Area.sheetOf_ne_nil formed' formed
    rw [named] at some_char
    rw [resolve?_named formed'.sheet_ne_nil named' (by rintro rfl; exact some_char' named'),
      resolve?_named (by rw [Ref.make_sheet]; exact some_char)
        (by rw [Ref.make_sheet, Option.or_none]) (by rintro rfl; exact some_char rfl),
      Ref.make_address, same]

/-- The first end of a range means the first cell that it covers, unless the last end alone names
a sheet and that is not the current one. -/
theorem resolve?_first (formed : a.Formed) (formed' : b.Formed) (qualified : k.Qualified a b) :
    k.resolve? a current none =
        k.resolve? (Ref.make a.address (Area.sheetOf a b)) current none ↔
      (a.sheet = none → ∀ name ∈ b.sheet, k.several → k.find? current = k.find? name) := by
  have some_char := Area.sheetOf_ne_nil formed formed'
  cases first : a.sheet with
  | some name =>
    have named : Area.sheetOf a b = some name := by rw [Area.sheetOf, first, Option.some_or]
    have name_ne_nil : name ≠ [] := fun empty => formed.sheet_ne_nil (by rw [first, empty])
    rw [resolve?_named formed.sheet_ne_nil (by rw [first, Option.some_or]) name_ne_nil, named,
      resolve?_named (by simpa [Ref.make_sheet] using name_ne_nil)
        (by rw [Ref.make_sheet, Option.some_or]) name_ne_nil, Ref.make_address]
    simp
  | none =>
    rw [resolve?_unnamed first]
    have lasts : Area.sheetOf a b = b.sheet := by rw [Area.sheetOf, first, Option.none_or]
    cases last : b.sheet with
    | none =>
      rw [lasts, last, resolve?_unnamed (Ref.make_sheet _ _), Ref.make_address]
      simp
    | some name =>
      have name_ne_nil : name ≠ [] := fun empty => formed'.sheet_ne_nil (by rw [last, empty])
      obtain ⟨key, found⟩ := qualified.find?_sheetOf (lasts.trans last)
      rw [lasts, last, resolve?_named (by simpa [Ref.make_sheet] using name_ne_nil)
        (by rw [Ref.make_sheet, Option.some_or]) name_ne_nil, Ref.make_address]
      have cancel := (Option.map_injective (List.append_left_injective a.address)).eq_iff
        (a := k.find? current) (b := k.find? name)
      by_cases several : k.several = true
      · simpa [several] using cancel
      · simp [several, found]

/-- A range is written by what its two ends become. The last end becomes the placeholder of the
last cell that the range covers. The first end becomes that of the first cell unless the last end
alone names a sheet: then that sheet must have the key of the current one, or be the only sheet. -/
theorem range_placeholders (k : SheetKeys) (current : Text)
    (inside : .range a b ∈ Node.walkAll (Parser.parse formula)) (some_cell : Area.refs a b ≠ [])
    (unpadded : Area.Unpadded a.address) (unpadded' : Area.Unpadded b.address)
    (qualified : k.Qualified a b) :
    k.writeTree current [.range a b] = (k.placeholder? current none a).getD a.text ++
        ':' :: (k.placeholder? current a.sheet b).getD b.text ∧
    ∃ first last, (Area.refs a b).head? = some first ∧ (Area.refs a b).getLast? = some last ∧
      k.placeholder? current a.sheet b = k.placeholder? current none last ∧
      (k.placeholder? current none a = k.placeholder? current none first ↔
        (a.sheet = none → ∀ name ∈ b.sheet, k.several → k.find? current = k.find? name)) := by
  obtain ⟨formed, formed'⟩ := Parser.formed_of_range_mem_parse inside
  have corners := Area.corners_of_refs formed formed' unpadded unpadded' some_cell
  refine ⟨?_, _, _, corners.1, corners.2, congrArg _ (resolve?_last formed formed' qualified), ?_⟩
  · simp [writeTree, Node.writeAll, Node.write, wrap_eq]
  · rw [← resolve?_first formed formed' qualified]
    exact (Option.map_injective fun _ _ => placeholder_inj).eq_iff

/-- A range inside a call, with a sheet name in other letter case on its first end. -/
theorem range_placeholders_on_first :
    (⟨["Main", "Data"]⟩ : SheetKeys).writeTree "Main"
          [.range ⟨some "DATA", "B9", "DATA!$B9"⟩ ⟨none, "C10", "C$10"⟩] =
        ((⟨["Main", "Data"]⟩ : SheetKeys).placeholder? "Main" none
            ⟨some "DATA", "B9", "DATA!$B9"⟩).getD "DATA!$B9" ++
          ':' :: ((⟨["Main", "Data"]⟩ : SheetKeys).placeholder? "Main" (some "DATA")
            ⟨none, "C10", "C$10"⟩).getD "C$10" ∧
    ∃ first last,
      (Area.refs ⟨some "DATA", "B9", "DATA!$B9"⟩ ⟨none, "C10", "C$10"⟩).head? = some first ∧
      (Area.refs ⟨some "DATA", "B9", "DATA!$B9"⟩ ⟨none, "C10", "C$10"⟩).getLast? = some last ∧
      (⟨["Main", "Data"]⟩ : SheetKeys).placeholder? "Main" (some "DATA") ⟨none, "C10", "C$10"⟩ =
        (⟨["Main", "Data"]⟩ : SheetKeys).placeholder? "Main" none last ∧
      ((⟨["Main", "Data"]⟩ : SheetKeys).placeholder? "Main" none ⟨some "DATA", "B9", "DATA!$B9"⟩ =
          (⟨["Main", "Data"]⟩ : SheetKeys).placeholder? "Main" none first ↔
        ((some "DATA" : Option Text) = none → ∀ name ∈ (none : Option Text),
          (⟨["Main", "Data"]⟩ : SheetKeys).several →
            (⟨["Main", "Data"]⟩ : SheetKeys).find? "Main" =
              (⟨["Main", "Data"]⟩ : SheetKeys).find? name)) := by
  have tokens : Token.tokens "SUM(DATA!$B9:C$10)" = [.func "SUM", .lparen,
      .ref ⟨some "DATA", "B9", "DATA!$B9"⟩, .colon, .ref ⟨none, "C10", "C$10"⟩, .rparen] := by
    decide +kernel
  have inside : .range ⟨some "DATA", "B9", "DATA!$B9"⟩ ⟨none, "C10", "C$10"⟩ ∈
      Node.walkAll (Parser.parse "SUM(DATA!$B9:C$10)") := by
    rw [Parser.parse, tokens]
    exact List.mem_cons_of_mem _ List.mem_cons_self
  have qualified : (⟨["Main", "Data"]⟩ : SheetKeys).Qualified ⟨some "DATA", "B9", "DATA!$B9"⟩
      ⟨none, "C10", "C$10"⟩ := by
    refine ⟨?_, by simp, by simp⟩
    rintro name ⟨⟩
    exact ⟨"Data", by decide, by decide⟩
  exact range_placeholders _ _ inside (by decide +kernel) (by unfold Area.Unpadded; decide)
    (by unfold Area.Unpadded; decide) qualified

/-- If the last end alone names a sheet, the first end becomes a cell of the current one, though
all cells of the range lie on the other. -/
theorem range_placeholders_on_last :
    .range ⟨none, "A1", "A1"⟩ ⟨some "Data", "A2", "Data!A2"⟩ ∈
      Node.walkAll (Parser.parse "A1:Data!A2") ∧
    Area.refs ⟨none, "A1", "A1"⟩ ⟨some "Data", "A2", "Data!A2"⟩ =
      [⟨some "Data", "A1", "Data!A1"⟩, ⟨some "Data", "A2", "Data!A2"⟩] ∧
    (⟨["Main", "Data"]⟩ : SheetKeys).write "Main" "A1:Data!A2" =
      "$\x7bmetric:Main!A1\x7d:$\x7bmetric:Data!A2\x7d" ∧
    (⟨["Main", "Data"]⟩ : SheetKeys).placeholder? "Main" none ⟨none, "A1", "A1"⟩ ≠
      (⟨["Main", "Data"]⟩ : SheetKeys).placeholder? "Main" none ⟨some "Data", "A1", "Data!A1"⟩ := by
  refine ⟨?_, by decide +kernel⟩
  have tokens : Token.tokens "A1:Data!A2" = [.ref ⟨none, "A1", "A1"⟩, .colon,
      .ref ⟨some "Data", "A2", "Data!A2"⟩] := by
    decide +kernel
  rw [Parser.parse, tokens]
  exact List.mem_cons_self

end SheetKeys
end CellGraph
