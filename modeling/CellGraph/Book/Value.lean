import CellGraph.Numeral.Notation

/-!
# Cell values

The values that a workbook stores in its cells, and the text that is shown for each.
-/

namespace CellGraph

inductive MomentKind where
  | dateTime
  | date
  | time
  deriving DecidableEq, Repr

/-- A span of time: its whole seconds, rounded down, and the microseconds beyond them. -/
structure Duration where
  seconds : Int
  microseconds : Fin 1000000 := 0
  deriving DecidableEq, Repr

def Duration.ofSeconds (seconds : Int) : Duration := ⟨seconds, 0⟩

/-- A number of whole seconds. -/
instance : Coe Int Duration := ⟨Duration.ofSeconds⟩

/-- The number of whole seconds. -/
instance : Coe Duration Int := ⟨Duration.seconds⟩

/-- The days, if there are any, then hours, minutes and seconds, and microseconds if there are
any. Only the days may be negative. -/
def Duration.text (d : Duration) : Text :=
  let days := d.seconds.fdiv 86400
  let rest := (d.seconds.fmod 86400).toNat
  let dayText : Text :=
    if days = 0 then []
    else Text.ofInt days ++ (if days.natAbs = 1 then (" day, " : Text) else " days, ")
  let fraction : Text :=
    if d.microseconds = 0 then [] else '.' :: Text.ofNatPadded 6 d.microseconds
  dayText ++ Text.ofNat (rest / 3600) ++ ':' :: Text.ofNatPadded 2 (rest % 3600 / 60) ++
    ':' :: Text.ofNatPadded 2 (rest % 60) ++ fraction

example : Duration.text ⟨93784, 0⟩ = "1 day, 2:03:04".toList := by decide +kernel
example : Duration.text ⟨-1, 999999⟩ = "-1 day, 23:59:59.999999".toList := by decide +kernel

/-- The value of a cell. A point in time is kept as its ISO text, rich text as the texts of
its runs, and an object of any other kind as the text that is shown for it. -/
inductive Value where
  | blank
  | text (t : Text)
  | bool (b : Bool)
  | int (n : Int)
  | float (x : Binary64)
  | moment (kind : MomentKind) (iso : Text)
  | duration (d : Duration)
  | rich (runs : List Text)
  deriving DecidableEq, Repr, Inhabited

namespace Value

/-- The text that a spreadsheet shows for a value. -/
def display : Value → Text
  | .blank => []
  | .text t => t
  | .bool b => if b then "TRUE" else "FALSE"
  | .int n => Text.ofInt n
  | .float x => x.text
  | .moment _ iso => iso
  | .duration d => d.text
  | .rich runs => runs.flatten

end Value
end CellGraph
