import CellGraph.Book.Value
import CellGraph.Package.Basic
import CellGraph.Text.Digit

/-!
# Points in time in packages

How a cell may write a date, a time, both, or a duration. What follows a point in time is not read,
and a fraction of a second has at most three digits.
-/

namespace CellGraph.Package.Moment

/-- A number of so many digits, and what follows it. -/
def number? (width : Nat) (t : Text) : Option (Nat × Text) :=
  let digits := t.take width
  if digits.length = width ∧ digits.all Text.isDecimal then
    some (Text.natOfDigits digits, t.drop width)
  else none

def numberAfter? (mark : Char) (width : Nat) : Text → Option (Nat × Text)
  | [] => none
  | c :: t => if c = mark then number? width t else none

/-- Year, month and day, and what follows them. -/
def date? (t : Text) : Option ((Nat × Nat × Nat) × Text) := do
  let (year, t) ← number? 4 t
  let (month, t) ← numberAfter? '-' 2 t
  let (day, t) ← numberAfter? '-' 2 t
  return ((year, month, day), t)

/-- The thousandths of a second in at most three digits behind a point. -/
def thousandths (t : Text) : Nat :=
  match t with
  | '.' :: t =>
    let digits := (t.take 3).takeWhile Text.isDecimal
    Text.natOfDigits digits * Nat.pow 10 (3 - digits.length)
  | _ => 0

/-- Hour, minute, second and thousandths of a second. -/
def time? (t : Text) : Option (Nat × Nat × Nat × Nat) := do
  let (hour, t) ← number? 2 t
  let (minute, t) ← numberAfter? ':' 2 t
  match numberAfter? ':' 2 t with
  | some (second, t) => return (hour, minute, second, thousandths t)
  | none => return (hour, minute, 0, 0)

/-- The number of days of a month. -/
def daysOfMonth (year month : Nat) : Nat :=
  if month = 2 then
    if year % 4 = 0 ∧ (year % 100 ≠ 0 ∨ year % 400 = 0) then 29 else 28
  else if month = 4 ∨ month = 6 ∨ month = 9 ∨ month = 11 then 30
  else 31

/-- The text of a date that the calendar has. -/
def dateText? : Nat × Nat × Nat → Option Text
  | (year, month, day) =>
    if 1 ≤ year ∧ 1 ≤ month ∧ month ≤ 12 ∧ 1 ≤ day ∧ day ≤ daysOfMonth year month then
      some (Text.ofNatPadded 4 year ++ '-' :: Text.ofNatPadded 2 month ++
        '-' :: Text.ofNatPadded 2 day)
    else none

/-- The text of a time that the clock has. -/
def timeText? : Nat × Nat × Nat × Nat → Option Text
  | (hour, minute, second, thousandths) =>
    if hour < 24 ∧ minute < 60 ∧ second < 60 then
      let fraction : Text :=
        if thousandths = 0 then [] else '.' :: Text.ofNatPadded 6 (1000 * thousandths)
      some (Text.ofNatPadded 2 hour ++ ':' :: Text.ofNatPadded 2 minute ++
        ':' :: Text.ofNatPadded 2 second ++ fraction)
    else none

/-- A number in front of a unit of a duration, and what follows the unit. -/
def amount (mark : Char) (t : Text) : Option Nat × Text :=
  let digits := t.takeWhile Text.isDecimal
  let rest := t.drop digits.length
  if digits ≠ [] ∧ rest.head? = some mark then (some (Text.natOfDigits digits), rest.drop 1)
  else (none, t)

/-- A duration in hours, minutes and whole seconds. -/
def duration? (t : Text) : Option Value := do
  let t ← Text.after? "PT" t
  let (hours, t) := amount 'H' t
  let (minutes, t) := amount 'M' t
  let (seconds, _) := amount 'S' t
  if hours.isNone ∧ minutes.isNone ∧ seconds.isNone then none
  let total := 3600 * hours.getD 0 + 60 * minutes.getD 0 + seconds.getD 0
  return .duration (.ofSeconds total)

/-- Reads a point in time or a duration. -/
def read (t : Text) : Except FileError Value :=
  let date := date? t
  let behind := (date.map (·.2)).getD t
  let behind := if behind.head? = some 'T' then behind.drop 1 else behind
  orMalformed <|
    match date.map (·.1), time? behind with
    | none, none => duration? t
    | none, some time => (timeText? time).map (.moment .time ·)
    | some date, none => (dateText? date).map (.moment .date ·)
    | some date, some time => do
      return .moment .dateTime ((← dateText? date) ++ 'T' :: (← timeText? time))

example : (read "2024-02-29T12:30:05.5Z").toOption =
    some (.moment .dateTime "2024-02-29T12:30:05.500000".toList) := by decide +kernel
example : (read "2023-02-29").toOption = none := by decide +kernel
example : (read "PT1H30M").toOption = some (.duration ⟨5400, 0⟩) := by decide +kernel

end CellGraph.Package.Moment
