import CellGraph.Package.Schema

/-!
# Shared formulas

Cells may share one formula, written for the first of them. `SharedFormula.read` takes a formula
apart into ranges and all else, and `SharedFormula.moved` writes it for another cell: the columns
and rows of ranges move along, unless they have a dollar sign.
-/

namespace CellGraph.Package

inductive FormulaPiece where
  | range (t : Text)
  | other (t : Text)
  deriving DecidableEq, Repr

/-- A formula and the cell that it is written for. -/
structure SharedFormula where
  column : Nat
  row : Int
  pieces : List FormulaPiece
  deriving DecidableEq, Repr

namespace SharedFormula

/-- How far a formula has been taken apart: the pieces and the characters of the next one, both
backwards, and the brackets that must be closed, the innermost first. -/
structure Scan where
  pieces : List FormulaPiece
  pending : Text
  brackets : List Char

namespace Scan

/-- Adds a piece that is no range. -/
def add (s : Scan) (t : Text) : Scan := { s with pieces := .other t :: s.pieces }

def push (s : Scan) (t : Text) : Scan := { s with pending := t.reverseAux s.pending }

/-- An operand: a truth value, a number or a range. -/
def operand (t : Text) : FormulaPiece :=
  if t.head? = some '#' ∨ t = "TRUE" ∨ t = "FALSE" ∨ (float? t).isSome then .other t else .range t

def flush (s : Scan) : Scan :=
  if s.pending = [] then s
  else { s with pieces := operand s.pending.reverse :: s.pieces, pending := [] }

/-- Whether the next piece has no characters yet or ends with a given one. -/
def isAtStart (s : Scan) (last : Option Char) : Bool :=
  s.pending = [] || (last.isSome && s.pending.head? = last)

end Scan

/-- The number of characters up to a closing quote; a doubled quote closes nothing. -/
def quotedLength? (mark : Char) : Text → Option Nat
  | [] => none
  | [c] => if c = mark then some 1 else none
  | c :: d :: t =>
    if c ≠ mark then (quotedLength? mark (d :: t)).map (· + 1)
    else if d = mark then (quotedLength? mark t).map (· + 2)
    else some 1

/-- The number of characters up to the bracket that closes the last of some open ones. -/
def bracketLength? (depth : Nat) : Text → Option Nat
  | [] => none
  | c :: t =>
    let depth := if c = '[' then depth + 1 else if c = ']' then depth - 1 else depth
    if depth = 0 then some 1 else (bracketLength? depth t).map (· + 1)

/-- Whether a text is a number up to its exponent, which a sign may follow. -/
def isMantissa : Text → Bool
  | [] => false
  | c :: t =>
    let isEnd (t : Text) : Bool := t = ['e'] || t = ['E']
    c.isDigit && c ≠ '0' && (isEnd t ||
      match t with
      | '.' :: t => t.head?.any Char.isDigit && isEnd (t.dropWhile Char.isDigit)
      | _ => false)

/-- The errors that a formula may name. -/
def errorWords : List Text := [
  "#NULL!", "#DIV/0!", "#VALUE!", "#REF!", "#NAME?", "#NUM!", "#N/A", "#GETTING_DATA"]

def ends (c : Char) : Bool := (",;\x7d) +-*/^&=><%" : Text).contains c

/-- Reads the piece that starts with a character, and gives the number of characters read. -/
def next (s : Scan) (c : Char) (t : Text) : Except PartFlaw (Scan × Nat) :=
  let s := if ends c then s.flush else s
  let cut (length : Option Nat) (f : Text → Scan) : Except PartFlaw (Scan × Nat) :=
    match length with
    | some n => .ok (f (c :: t.take n), n + 1)
    | none => .error .brokenFormula
  if c = '"' then
    cut ((quotedLength? c t).filter fun _ => s.isAtStart ':') s.add
  else if c = '\'' then
    cut ((quotedLength? c t).filter fun _ => s.isAtStart ':') s.push
  else if c = '[' then cut (bracketLength? 1 t) s.push
  else if c = '#' then
    match errorWords.find? (·.isPrefixOf (c :: t)) with
    | some word =>
      if s.isAtStart '!' then
        .ok ({ s with pieces := Scan.operand (s.pending.reverse ++ word) :: s.pieces,
                      pending := [] }, word.length)
      else .error .brokenFormula
    | none => .error .brokenFormula
  else if c = ' ' ∨ c = '\n' then
    .ok (s.add [c], 1 + (t.takeWhile fun d => d = ' ' || d = '\n').length)
  else if (c = '>' ∨ c = '<') ∧ t.head? = some '=' ∨ c = '<' ∧ t.head? = some '>' then
    .ok (s.add (c :: t.take 1), 2)
  else if c = '\x7b' then
    if s.pending = [] then .ok ({ s.add [c] with brackets := '\x7d' :: s.brackets }, 1)
    else .error .brokenFormula
  else if c = '(' then
    .ok ({ s.add (s.pending.reverse ++ [c]) with pending := [], brackets := ')' :: s.brackets }, 1)
  else if c = ')' ∨ c = '\x7d' then
    match s.brackets with
    | [] => .error .noEntry
    | closer :: brackets =>
      if closer = c then .ok ({ s.add [c] with brackets := brackets }, 1) else .error .brokenFormula
  else if ends c then .ok (s.add [c], 1)
  else .ok (s.push [c], 1)

/-- Reads a formula; `skip` characters still belong to the last piece. -/
def scan (s : Scan) (skip : Nat) : Text → Except PartFlaw (List FormulaPiece)
  | [] => .ok s.flush.pieces.reverse
  | c :: t =>
    match skip with
    | n + 1 => scan s n t
    | 0 => do
      if (c = '+' ∨ c = '-') ∧ isMantissa s.pending.reverse then scan (s.push [c]) 0 t
      else
        let (s, length) ← next s c t
        scan s (length - 1) t

/-- Takes the formula of a cell apart. -/
def read (column : Nat) (row : Int) (formula : Text) : Except PartFlaw SharedFormula := do
  return ⟨column, row, ← scan ⟨[], [], []⟩ 0 formula⟩

/-- A column that moves along; one with a dollar sign stays. -/
def movedColumn (columns : Int) (t : Text) : Except PartFlaw Text :=
  if t.head? = some '$' then .ok t
  else
    let n := (Area.columnOfLetters t : Int) + columns
    if 1 ≤ n ∧ n ≤ columnLimit then .ok (Area.lettersOfColumn n.toNat)
    else .error .formulaOutside

/-- A row that moves along; one with a dollar sign stays. -/
def movedRow (rows : Int) (t : Text) : Except PartFlaw Text :=
  if t.head? = some '$' then .ok t
  else
    let n := (Text.natOfDigits t : Int) + rows
    if 1 ≤ n then .ok (Text.ofInt n) else .error .formulaOutside

/-- One to three letters, with a dollar sign in front or without, and the rest. -/
def scanColumn? (t : Text) : Option (Text × Text) :=
  let (marker, t) := Ref.scanMarker t
  let letters := t.takeWhile Char.isAlpha
  if letters = [] ∨ 3 < letters.length then none
  else some (marker ++ letters, t.drop letters.length)

/-- The number of a row, with a dollar sign in front or without, if it fills the text. -/
def wholeRow? (t : Text) : Option Text :=
  let digits := (Ref.scanMarker t).2
  if digits.length ≤ 7 ∧ digits.all Char.isDigit ∧ digits.head?.any (· ≠ '0') then some t else none

def wholeColumn? (t : Text) : Option Text :=
  match scanColumn? t with
  | some (column, []) => some column
  | _ => none

/-- The address of a cell that moves along; all else stays as it is. -/
def movedCell (columns rows : Int) (t : Text) : Except PartFlaw (Option Text) :=
  match scanColumn? t with
  | some (column, rest) =>
    match wholeRow? rest with
    | some row => do return some ((← movedColumn columns column) ++ (← movedRow rows row))
    | none => .ok none
  | none => .ok none

/-- A range that moves along: rows, columns, corners with colons between them, or one cell. A name
loses the name of the sheet in front of it. -/
def movedRange (columns rows : Int) (t : Text) : Except PartFlaw Text := do
  let range := (t.reverse.takeWhile (· ≠ '!')).reverse
  let sheet := t.take (t.length - range.length)
  let both (move : Text → Except PartFlaw Text) (a b : Text) : Except PartFlaw Text := do
    return sheet ++ (← move a) ++ ':' :: (← move b)
  match Text.split ':' range with
  | [cell] => return ((← movedCell columns rows cell).map (sheet ++ ·)).getD cell
  | [a, b] =>
    match wholeRow? a, wholeRow? b, wholeColumn? a, wholeColumn? b with
    | some a, some b, _, _ => both (movedRow rows) a b
    | _, _, some a, some b => both (movedColumn columns) a b
    | _, _, _, _ => both (fun c => do return (← movedCell columns rows c).getD c) a b
  | corners =>
    return sheet ++ Text.join [':'] (← corners.mapM fun c => do
      return (← movedCell columns rows c).getD c)

/-- The formula as it stands in the cell that lies some columns and rows away. -/
def moved (f : SharedFormula) (columns rows : Int) : Except PartFlaw Text := do
  return (← f.pieces.mapM fun
    | .range t => movedRange columns rows t
    | .other t => .ok t).flatten

/-- The formula as it stands in a cell. -/
def at_ (f : SharedFormula) (column : Nat) (row : Int) : Except PartFlaw Text :=
  f.moved (column - f.column) (row - f.row)

example : ((read 1 1 "SUM($A1:B$2)+1E+5&\"A1\"").bind (·.at_ 2 3)).toOption =
    some "SUM($A3:C$2)+1E+5&\"A1\"".toList := by decide +kernel
example : ((read 2 1 "A1").bind (·.at_ 1 1)).toOption = none := by decide +kernel

end SharedFormula
end CellGraph.Package
