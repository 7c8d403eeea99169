import CellGraph.Numeral.Binary64
import CellGraph.Text.Digit

/-!
# Written numbers

The grammar of unsigned numbers: digits with at most one decimal point, and an exponent that
counts only when it has digits. One scan serves formulas, whose digits are ASCII, and cell texts,
whose digits may be of any script.
-/

namespace CellGraph

structure Exponent where
  mark : Char
  sign : Option Char
  digits : Text
  deriving DecidableEq, Repr

/-- An unsigned number as written; `fraction` holds the digits after the point, if there is
a point. -/
structure Literal where
  whole : Text
  fraction : Option Text
  exponent : Option Exponent
  deriving DecidableEq, Repr

namespace Exponent

def text (e : Exponent) : Text := e.mark :: e.sign.toList ++ e.digits

/-- The power of ten that the exponent stands for. -/
def value (e : Exponent) : Int :=
  if e.sign = some '-' then -(Text.natOfDigits e.digits : Int) else Text.natOfDigits e.digits

/-- An exponent at the start of a text, and the rest. -/
def scan (digit : Char → Bool) : Text → Option Exponent × Text
  | [] => (none, [])
  | mark :: t =>
    if mark = 'e' || mark = 'E' then
      let (sign, t') := match t with
        | c :: r => if c = '+' || c = '-' then (some c, r) else (none, t)
        | [] => (none, [])
      let digits := t'.takeWhile digit
      if digits = [] then (none, mark :: t)
      else (some ⟨mark, sign, digits⟩, t'.dropWhile digit)
    else (none, mark :: t)

theorem mem_text_iff {e : Exponent} {c : Char} :
    c ∈ e.text ↔ c = e.mark ∨ c ∈ e.sign ∨ c ∈ e.digits := by
  simp [text]

/-- The parts of an exponent that is read. -/
theorem scan_eq_some {digit : Char → Bool} {t : Text} {e : Exponent}
    (found : (scan digit t).1 = some e) :
    (e.mark = 'e' ∨ e.mark = 'E') ∧ (∀ c ∈ e.sign, c = '+' ∨ c = '-') ∧ e.digits ≠ [] ∧
      ∃ r : Text, e.digits = r.takeWhile digit := by
  unfold scan at found
  split at found
  · cases found
  · next mark t =>
    split at found
    · next isMark =>
      dsimp only at found
      split at found
      · next c r =>
        split at found <;> split at found <;> cases found
        · next isSign digits => exact ⟨by simpa using isMark, by simpa using isSign, digits, r, rfl⟩
        · next digits => exact ⟨by simpa using isMark, by simp, digits, c :: r, rfl⟩
      · simp at found
    · cases found

theorem text_append_scan (digit : Char → Bool) (t : Text) :
    ((scan digit t).1.map (·.text)).getD [] ++ (scan digit t).2 = t := by
  unfold scan
  split
  · rfl
  · next mark t =>
    split
    · dsimp only
      split
      · next c r =>
        split <;> split <;> simp [text, List.takeWhile_append_dropWhile]
      · split <;> simp [text]
    · rfl

end Exponent

namespace Literal

def text (l : Literal) : Text :=
  l.whole ++ (l.fraction.map ('.' :: ·)).getD [] ++ (l.exponent.map (·.text)).getD []

/-- A number at the start of a text, and the rest: as many characters as the grammar allows. -/
def scan (digit : Char → Bool) (t : Text) : Option (Literal × Text) :=
  let whole := t.takeWhile digit
  match t.dropWhile digit with
  | '.' :: r =>
    let fraction := r.takeWhile digit
    if whole = [] && fraction = [] then none
    else
      let (exponent, rest) := Exponent.scan digit (r.dropWhile digit)
      some (⟨whole, some fraction, exponent⟩, rest)
  | r =>
    if whole = [] then none
    else
      let (exponent, rest) := Exponent.scan digit r
      some (⟨whole, none, exponent⟩, rest)

theorem mem_text_iff {l : Literal} {c : Char} : c ∈ l.text ↔
    c ∈ l.whole ∨ (∃ t ∈ l.fraction, c = '.' ∨ c ∈ t) ∨ ∃ e ∈ l.exponent, c ∈ e.text := by
  obtain ⟨whole, fraction, exponent⟩ := l
  cases fraction <;> cases exponent <;> simp [text, or_assoc]

/-- The parts of a number that is read, with a point and without one. -/
theorem scan_eq_some {digit : Char → Bool} {t rest : Text} {l : Literal}
    (found : scan digit t = some (l, rest)) :
    (∃ r, t.dropWhile digit = '.' :: r ∧ (t.takeWhile digit ≠ [] ∨ r.takeWhile digit ≠ []) ∧
      l = ⟨t.takeWhile digit, some (r.takeWhile digit),
        (Exponent.scan digit (r.dropWhile digit)).1⟩ ∧
      rest = (Exponent.scan digit (r.dropWhile digit)).2) ∨
    ((∀ r, t.dropWhile digit ≠ '.' :: r) ∧ t.takeWhile digit ≠ [] ∧
      l = ⟨t.takeWhile digit, none, (Exponent.scan digit (t.dropWhile digit)).1⟩ ∧
      rest = (Exponent.scan digit (t.dropWhile digit)).2) := by
  unfold scan at found
  dsimp only at found
  split at found
  · next r point =>
    split at found
    · cases found
    · next digits =>
      cases found
      refine .inl ⟨r, point, ?_, rfl, rfl⟩
      simpa [Decidable.or_iff_not_imp_left] using digits
  · next noPoint =>
    split at found
    · cases found
    · next digits =>
      cases found
      exact .inr ⟨noPoint, digits, rfl, rfl⟩

/-- A number is cut off the text and no character is lost. -/
theorem eq_of_scan {digit : Char → Bool} {t rest : Text} {l : Literal}
    (h : scan digit t = some (l, rest)) : t = l.text ++ rest ∧ l.text ≠ [] := by
  have whole := List.takeWhile_append_dropWhile (p := digit) (l := t)
  obtain ⟨r, point, -, rfl, rfl⟩ | ⟨-, digits, rfl, rfl⟩ := scan_eq_some h
  · have tail := Exponent.text_append_scan digit (r.dropWhile digit)
    rw [point] at whole
    refine ⟨?_, by simp [text]⟩
    simp [text, tail, whole]
  · have tail := Exponent.text_append_scan digit (t.dropWhile digit)
    refine ⟨?_, by simp [text, digits]⟩
    simp [text, tail, whole]

/-- The number nearest to a written one, with a sign in front. -/
def value (negative : Bool) (l : Literal) : Binary64 :=
  let fraction := l.fraction.getD []
  let power := (l.exponent.map (·.value)).getD 0
  Binary64.ofDecimal negative (Text.natOfDigits (l.whole ++ fraction)) (power - fraction.length)

end Literal

namespace Binary64

/-- Splits a sign from the start of a text. -/
def scanSign : Text → Bool × Text
  | '-' :: t => (true, t)
  | '+' :: t => (false, t)
  | t => (false, t)

/-- Reads a number: a sign, then a written number in digits of any script, or a word for
infinity or for no number. -/
def read? (t : Text) : Option Binary64 :=
  let (negative, t) := scanSign t
  match Literal.scan Text.isDecimal t with
  | some (l, []) => some (l.value negative)
  | _ =>
    let word := t.map Char.toLower
    if word = ("inf" : Text) || word = ("infinity" : Text) then some (.infinite negative)
    else if word = ("nan" : Text) then some .nan
    else none

end Binary64
end CellGraph
