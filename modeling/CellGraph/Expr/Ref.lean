import CellGraph.Text.Basic

/-!
# References

How a reference to a cell is written: an optional sheet name and an exclamation mark, then
column letters and row digits, each with an optional dollar sign. `scan?` reads a reference at the
start of a text, `make` writes one.

A sheet name that is not a plain word stands between single quotes, with the quotes in it doubled;
`unquote?` undoes `quote` and says where the name ends.
-/

namespace CellGraph

/-- A reference to one cell: the sheet it names, the address without dollar signs, and its text
as written. -/
structure Ref where
  sheet : Option Text
  address : Text
  text : Text
  deriving DecidableEq, Repr, Inhabited

namespace SheetName

/-- A name with its single quotes doubled. -/
def quote : Text → Text
  | [] => []
  | c :: t => if c = '\'' then '\'' :: '\'' :: quote t else c :: quote t

/-- The name up to the closing quote, and the text behind that quote. -/
def unquote? : Text → Option (Text × Text)
  | [] => none
  | '\'' :: '\'' :: t => (unquote? t).map fun (name, rest) => ('\'' :: name, rest)
  | c :: t => if c = '\'' then some ([], t)
    else (unquote? t).map fun (name, rest) => (c :: name, rest)

/-- Characters that may stand inside a bare name. -/
def isBareChar (c : Char) : Bool := Text.isWordChar c || c == '.'

/-- A name that may be written without quotes: a letter, digit or underscore, then these and
dots. -/
def isBare : Text → Bool
  | [] => false
  | c :: t => Text.isWordChar c && t.all isBareChar

/-- The name as it must be written in front of an exclamation mark. -/
def written (name : Text) : Text :=
  if isBare name then name else '\'' :: quote name ++ ['\'']

/-- What `unquote?` consumes is the quoted name and its closing quote. -/
theorem eq_of_unquote? {t name rest : Text} (h : unquote? t = some (name, rest)) :
    t = quote name ++ '\'' :: rest := by
  fun_induction unquote? t generalizing name rest with
  | case1 => simp at h
  | case2 t ih =>
    obtain ⟨⟨n, r⟩, inner, outer⟩ := Option.map_eq_some_iff.1 h
    cases outer
    simp [quote, ih inner]
  | case3 => simp_all [quote]
  | case4 c t _ notQuote ih =>
    obtain ⟨⟨n, r⟩, inner, outer⟩ := Option.map_eq_some_iff.1 h
    cases outer
    simp [quote, notQuote, ih inner]

end SheetName

namespace Ref

/-- The reference to an address on a sheet, or without a sheet. -/
def make (address : Text) (sheet : Option Text) : Ref :=
  match sheet with
  | some (c :: name) => ⟨sheet, address, SheetName.written (c :: name) ++ '!' :: address⟩
  | _ => ⟨sheet, address, address⟩

/-- An optional dollar sign at the start of a text. -/
def scanMarker : Text → Text × Text
  | '$' :: t => (['$'], t)
  | t => ([], t)

/-- Whether a text continues the word, call or sheet name that ends before it. -/
def continues : Text → Bool
  | [] => false
  | c :: _ => SheetName.isBareChar c || c == '(' || c == '!'

/-- An address at the start of a text: as written, without dollar signs, and the rest. Nothing
that would continue the word may follow. -/
def scanAddress? (t : Text) : Option (Text × Text × Text) :=
  let (mark, t₁) := scanMarker t
  let column := t₁.takeWhile Char.isUpper
  let (mark', t₂) := scanMarker (t₁.dropWhile Char.isUpper)
  let row := t₂.takeWhile Char.isDigit
  let rest := t₂.dropWhile Char.isDigit
  if column ≠ [] ∧ column.length ≤ 3 ∧ row ≠ [] ∧ continues rest = false then
    some (mark ++ column ++ mark' ++ row, column ++ row, rest)
  else none

/-- A sheet name and its exclamation mark at the start of a text: the name, its text, and the
rest. -/
def scanSheet? : Text → Option (Text × Text × Text)
  | [] => none
  | c :: t =>
    if c = '\'' then
      match SheetName.unquote? t with
      | some (d :: name, '!' :: rest) =>
        some (d :: name, '\'' :: SheetName.quote (d :: name) ++ ['\'', '!'], rest)
      | _ => none
    else if Text.isWordChar c then
      match t.dropWhile SheetName.isBareChar with
      | '!' :: rest =>
        let name := c :: t.takeWhile SheetName.isBareChar
        some (name, name ++ ['!'], rest)
      | _ => none
    else none

/-- A reference with a sheet name at the start of a text, and the rest. -/
def scanOnSheet? (t : Text) : Option (Ref × Text) := do
  let (sheet, sheetText, t) ← scanSheet? t
  let (written, address, rest) ← scanAddress? t
  return (⟨some sheet, address, sheetText ++ written⟩, rest)

/-- A reference without a sheet name at the start of a text, and the rest. -/
def scanLocal? (t : Text) : Option (Ref × Text) := do
  let (written, address, rest) ← scanAddress? t
  return (⟨none, address, written⟩, rest)

/-- A reference at the start of a text, and the rest. -/
def scan? (t : Text) : Option (Ref × Text) := (scanOnSheet? t).or (scanLocal? t)

theorem scanMarker_append (t : Text) : (scanMarker t).1 ++ (scanMarker t).2 = t := by
  unfold scanMarker; split <;> rfl

/-- An address is cut off the text and no character is lost. -/
theorem eq_of_scanAddress? {t written address rest : Text}
    (h : scanAddress? t = some (written, address, rest)) :
    t = written ++ rest ∧ written ≠ [] := by
  unfold scanAddress? at h
  simp only at h
  split at h
  · next valid =>
    simp only [Option.some.injEq, Prod.mk.injEq] at h
    obtain ⟨rfl, rfl, rfl⟩ := h
    exact ⟨by simp [scanMarker_append], by simp [valid.1]⟩
  · simp at h

/-- A sheet name is cut off the text and no character is lost. -/
theorem eq_of_scanSheet? {t name written rest : Text}
    (h : scanSheet? t = some (name, written, rest)) : t = written ++ rest := by
  unfold scanSheet? at h
  split at h
  · simp at h
  · next c t =>
    split at h
    · next isQuote =>
      split at h
      · next d name tail found =>
        simp only [Option.some.injEq, Prod.mk.injEq] at h
        obtain ⟨rfl, rfl, rfl⟩ := h
        simp [isQuote, SheetName.eq_of_unquote? found]
      · simp at h
    · split at h
      · split at h
        · next tail found =>
          simp only [Option.some.injEq, Prod.mk.injEq] at h
          obtain ⟨rfl, rfl, rfl⟩ := h
          have whole := List.takeWhile_append_dropWhile (p := SheetName.isBareChar) (l := t)
          rw [found] at whole
          simp [whole]
        · simp at h
      · simp at h

/-- What is read as a reference is an address, with a sheet name in front of it or without. -/
theorem cases_of_scan? {t rest : Text} {r : Ref} (h : scan? t = some (r, rest)) :
    (∃ sheet sheetText t' written address, scanSheet? t = some (sheet, sheetText, t') ∧
      scanAddress? t' = some (written, address, rest) ∧
      r = ⟨some sheet, address, sheetText ++ written⟩) ∨
    ∃ written address, scanAddress? t = some (written, address, rest) ∧
      r = ⟨none, address, written⟩ := by
  rw [scan?, Option.or_eq_some_iff] at h
  rcases h with h | ⟨_, h⟩
  · simp only [scanOnSheet?, Option.bind_eq_bind, Option.bind_eq_some_iff, Option.pure_def] at h
    obtain ⟨⟨sheet, sheetText, t'⟩, sheetFound, ⟨written, address, rest'⟩, addressFound, h⟩ := h
    cases h
    exact .inl ⟨sheet, sheetText, t', written, address, sheetFound, addressFound, rfl⟩
  · simp only [scanLocal?, Option.bind_eq_bind, Option.bind_eq_some_iff, Option.pure_def] at h
    obtain ⟨⟨written, address, rest'⟩, addressFound, h⟩ := h
    cases h
    exact .inr ⟨written, address, addressFound, rfl⟩

/-- A reference is cut off the text and no character is lost. -/
theorem eq_of_scan? {t rest : Text} {r : Ref} (h : scan? t = some (r, rest)) :
    t = r.text ++ rest ∧ r.text ≠ [] := by
  rcases cases_of_scan? h with ⟨sheet, sheetText, t', written, address, sheetFound, found, rfl⟩ |
    ⟨written, address, found, rfl⟩
  · have cut := eq_of_scanAddress? found
    exact ⟨by simp [eq_of_scanSheet? sheetFound, cut.1], by simp [cut.2]⟩
  · exact eq_of_scanAddress? found

end Ref
end CellGraph
