import CellGraph.Dialect.Inline

/-!
# Sums

All sums of a formula are converted in one way or none is. If every one adds single references,
they keep their arguments and become the dialect's `sum`. If every one adds the cells of one range
within a column, they are spelled out with plus signs. Any other mix stays as it is and is
reported once.
-/

namespace CellGraph.Sum

def name : Text := "SUM"

/-- The arguments of a node that is a sum. -/
def summands? : Node → Option (List (List Node))
  | .call written args _ => if Inline.key written = name then some (Node.arguments args) else none
  | _ => none

theorem summands?_eq_some {n : Node} {summands : List (List Node)}
    (found : summands? n = some summands) :
    ∃ written args closed, n = .call written args closed ∧ Inline.key written = name ∧
      summands = Node.arguments args := by
  unfold summands? at found
  split at found
  · next written args closed =>
    split at found
    · next same =>
      cases found
      exact ⟨written, args, closed, rfl, same, rfl⟩
    · cases found
  · cases found

/-- All sums of a formula, each given by its arguments. -/
def sums (ns : List Node) : List (List (List Node)) := (Node.walkAll ns).filterMap summands?

/-- Whether an argument is a single reference. -/
def isReference (arg : List Node) : Bool :=
  match Node.sole? arg with
  | some (.ref _) => true
  | _ => false

/-- Whether a sum adds single references only, and at least one. -/
def addsReferences (args : List (List Node)) : Bool := !args.isEmpty && args.all isReference

/-- The references of a sum that adds one range within a column. -/
def columnRefs? : List (List Node) → Option (List Ref)
  | [arg] =>
    match Node.sole? arg with
    | some (.range a b) =>
      let column := Text.trimEnd Char.isDigit
      let refs := Area.refs a b
      if column a.address = column b.address ∧ refs ≠ [] then some refs else none
    | _ => none
  | _ => none

theorem columnRefs?_eq_some {args : List (List Node)} {refs : List Ref}
    (found : columnRefs? args = some refs) :
    ∃ arg a b, args = [arg] ∧ Node.sole? arg = some (.range a b) ∧ refs = Area.refs a b ∧
      refs ≠ [] := by
  unfold columnRefs? at found
  split at found
  · next arg =>
    split at found
    · next a b alone =>
      dsimp only at found
      split at found
      · next fits =>
        cases found
        exact ⟨arg, a, b, rfl, alone, rfl, fits.2⟩
      · cases found
    · cases found
  · cases found

/-- The dialect's own name of the function. -/
def rename : Node → Expansion
  | .call written args closed =>
    if Inline.key written = name then .of [.call "sum" args closed]
    else .keep (.call written args closed)
  | n => .keep n

/-- The cells of a range with plus signs between them. -/
def spell (refs : List Ref) : Text :=
  '(' :: List.intercalate ['+'] (refs.map (·.text)) ++ [')']

/-- Spells out a sum over a column. -/
def spellOut (n : Node) : Expansion :=
  match (summands? n).bind columnRefs? with
  | some refs => .of (Parser.parse (spell refs))
  | none => .keep n

/-- Converts all sums of a formula alike, or none. -/
def inline (ns : List Node) : Expansion :=
  let all := sums ns
  if all = [] then .of ns
  else if all.all addsReferences then Node.expandAll rename ns
  else if all.all fun args => (columnRefs? args).isSome then Node.expandAll spellOut ns
  else ⟨ns, [name]⟩

end CellGraph.Sum
