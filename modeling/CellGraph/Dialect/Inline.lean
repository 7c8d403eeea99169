import CellGraph.Expr.Area
import CellGraph.Expr.Expand
import CellGraph.Expr.Parser

/-!
# Inlined calls

The modelling dialect knows arithmetic, `sum` of single values and `log10`. Calls of four
spreadsheet functions are spelled out in these terms:

* `SUMPRODUCT(A1:A2,B1:B2)` becomes `(+A1*B1+A2*B2)`,
* `AVERAGE(A1:A2,B1)` becomes `((A1+A2+B1)/3)`,
* `LN(5)` becomes `(1 / log10(2.71828) * log10(5))`,
* `PV(0.1,10,100)` becomes `(-(100)*(1-(1+(0.1))^(-(10)))/(0.1))`.

What is spelled out is read again as a formula. A call whose arguments do not fit stays as
it is and is reported.
-/

namespace CellGraph.Inline

open Node (textAll)

/-- The name by which a function is known: letter case does not count. -/
def key (name : Text) : Text := name.map Char.toUpper

/-- How the arguments of a call are spelled out, if they can be. -/
abbrev Speller := List (List Node) → Option Text

/-- Two ranges of equally many cells, paired in order. -/
def sumproduct : Speller
  | [first, second] =>
    match Node.sole? first, Node.sole? second with
    | some (.range a b), some (.range c d) =>
      let left := Area.refs a b
      let right := Area.refs c d
      if left ≠ [] ∧ left.length = right.length then
        let products := (left.zip right).flatMap fun (l, r) => '+' :: l.text ++ '*' :: r.text
        some ('(' :: products ++ [')'])
      else none
    | _, _ => none
  | _ => none

theorem sumproduct_eq_some {args : List (List Node)} {t : Text} (spelled : sumproduct args = some t) :
    ∃ first second a b c d, args = [first, second] ∧ Node.sole? first = some (.range a b) ∧
      Node.sole? second = some (.range c d) ∧ Area.refs a b ≠ [] ∧
      (Area.refs a b).length = (Area.refs c d).length ∧
      t = '(' :: (((Area.refs a b).zip (Area.refs c d)).flatMap fun (l, r) =>
        '+' :: l.text ++ '*' :: r.text) ++ [')'] := by
  unfold sumproduct at spelled
  split at spelled
  · next first second =>
    split at spelled
    · next a b c d left right =>
      dsimp only at spelled
      split at spelled
      · next fits =>
        cases spelled
        exact ⟨first, second, a, b, c, d, rfl, left, right, fits.1, fits.2, rfl⟩
      · cases spelled
    · cases spelled
  · cases spelled

/-- The terms that an argument adds to a mean: the cells of a range, if it has any, or the
argument itself. -/
def terms? (arg : List Node) : Option (List Text) :=
  match Node.sole? arg with
  | some (.range a b) =>
    match Area.refs a b with
    | [] => none
    | refs => some (refs.map (·.text))
  | _ => some [textAll arg]

/-- The sum of all terms by their number. -/
def average : Speller := fun args => do
  let terms := (← args.mapM terms?).flatten
  if terms = [] then none
  else some ("((" ++ List.intercalate ['+'] terms ++ ")/" ++ Text.ofNat terms.length ++ [')'])

/-- The natural logarithm by way of the decimal one. -/
def ln : Speller
  | [arg] => some ("(1 / log10(2.71828) * log10(" ++ textAll arg ++ "))")
  | _ => none

/-- The present value of payments of one amount: rate, number and amount. An empty fourth and a
fifth argument `1` are ignored. -/
def pv : Speller := fun args =>
  let args := match args with
    | [rate, nper, pmt, future, due] =>
      if Node.solid future = [] ∧ Text.trim (textAll due) = ['1'] then [rate, nper, pmt] else args
    | _ => args
  match args with
  | [rate, nper, pmt] =>
    some ("(-(" ++ textAll pmt ++ ")*(1-(1+(" ++ textAll rate ++ "))^(-(" ++ textAll nper ++
      ")))/(" ++ textAll rate ++ "))")
  | _ => none

/-- There are three arguments, or five of which the last two are ignored. -/
theorem pv_eq_some {args : List (List Node)} {t : Text} (spelled : pv args = some t) :
    ∃ rate nper pmt, (args = [rate, nper, pmt] ∨ ∃ future due,
        args = [rate, nper, pmt, future, due] ∧ Node.solid future = [] ∧
          Text.trim (textAll due) = ['1']) ∧
      t = "(-(" ++ textAll pmt ++ ")*(1-(1+(" ++ textAll rate ++ "))^(-(" ++ textAll nper ++
        ")))/(" ++ textAll rate ++ "))" := by
  unfold pv at spelled
  dsimp only at spelled
  split at spelled
  · next rate nper pmt same =>
    cases spelled
    refine ⟨rate, nper, pmt, ?_, rfl⟩
    split at same
    · next future due =>
      split at same
      · next ignored =>
        cases same
        exact .inr ⟨future, due, rfl, ignored.1, ignored.2⟩
      · cases same
    · exact .inl same
  · cases spelled

/-- Spells out a node if it is a call of the named function. -/
def expandCall (name : Text) (spell : Speller) : Node → Expansion
  | .call written args closed =>
    if key written = name then
      match spell (Node.arguments args) with
      | some t => .of (Parser.parse t)
      | none => .refuse (.call written args closed) name
    else .keep (.call written args closed)
  | n => .keep n

/-- Spells out every call of the named function, the inner ones first. -/
def inline (name : Text) (spell : Speller) (ns : List Node) : Expansion :=
  Node.expandAll (expandCall name spell) ns

end CellGraph.Inline
