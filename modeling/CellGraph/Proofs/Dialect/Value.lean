import CellGraph.Dialect.Inline
import CellGraph.Proofs.Expr.Tree
import Mathlib.Algebra.BigOperators.Group.List.Basic
import Mathlib.Algebra.Field.Rat
import Mathlib.Tactic.NormNum.Inv
import Mathlib.Tactic.NormNum.OfScientific
import Mathlib.Tactic.NormNum.Pow

/-!
# Values of formulas

What a formula computes, independently of the conversion: exact arithmetic on rationals over any
values of the cells, any decimal logarithm and any powers. A sequence of nodes is read as operands
with signs between them. Unary signs bind closest, then powers, then products and quotients, then
sums and differences; signs of one level are worked off from left to right. A division by zero, a sign
without operand and two operands side by side have no value.
-/

namespace CellGraph

/-- What a formula is evaluated with. Cells without a sheet name have values of their own. -/
structure Valuation where
  cell : Option Text → Text → ℚ
  log : ℚ → Option ℚ
  power : ℚ → ℚ → Option ℚ

def Literal.amount (l : Literal) : ℚ :=
  let fraction := l.fraction.getD []
  let power := (l.exponent.map (·.value)).getD 0
  Text.natOfDigits (l.whole ++ fraction) * (10 : ℚ) ^ (power - fraction.length)

def Literal.amount? (t : Text) : Option ℚ :=
  match scan Char.isDigit t with
  | some (l, []) => some l.amount
  | _ => none

/-! ## Arithmetic -/

inductive Sign where
  | plus
  | minus
  | times
  | divide
  | power
  deriving DecidableEq, Repr

/-- How close a sign binds. -/
inductive Level where
  | powers
  | products
  | sums
  deriving DecidableEq, Repr

namespace Sign

/-- The sign that an operator of a formula is. -/
def ofText? : Text → Option Sign
  | ['+'] => some .plus
  | ['-'] => some .minus
  | ['*'] => some .times
  | ['/'] => some .divide
  | ['^'] => some .power
  | _ => none

def level : Sign → Level
  | .plus | .minus => .sums
  | .times | .divide => .products
  | .power => .powers

end Sign

def quotient? (x y : ℚ) : Option ℚ := if y = 0 then none else some (x / y)

namespace Valuation

def apply (v : Valuation) : Sign → ℚ → ℚ → Option ℚ
  | .plus, x, y => some (x + y)
  | .minus, x, y => some (x - y)
  | .times, x, y => some (x * y)
  | .divide, x, y => quotient? x y
  | .power, x, y => v.power x y

end Valuation

inductive Item where
  | value (x : ℚ)
  | sign (s : Sign)
  deriving DecidableEq

/-- Operands behind the first one, each with the sign in front of it. -/
abbrev Chain := List (Sign × ℚ)

namespace Item

mutual

/-- The first operand, its unary signs worked off, and the operands behind it. -/
def operand (negative : Bool) : List Item → Option (ℚ × Chain)
  | .value x :: is => (chain is).map fun rest => (if negative then -x else x, rest)
  | .sign .minus :: is => operand (!negative) is
  | .sign .plus :: is => operand negative is
  | _ => none

/-- The operands behind an operand. -/
def chain : List Item → Option Chain
  | [] => some []
  | .sign s :: is => (operand false is).map fun (x, rest) => (s, x) :: rest
  | .value _ :: _ => none

end

/-- Works off the signs of one level from left to right. -/
def gather (v : Valuation) (l : Level) (x : ℚ) : Chain → Option (ℚ × Chain)
  | [] => some (x, [])
  | (s, y) :: rest =>
    if s.level = l then (v.apply s x y).bind fun z => gather v l z rest
    else (gather v l y rest).map fun (z, rest) => (x, (s, z) :: rest)

/-- The value of operands and signs. -/
def total (v : Valuation) (is : List Item) : Option ℚ := do
  let (x, rest) ← operand false is
  let (x, rest) ← gather v .powers x rest
  let (x, rest) ← gather v .products x rest
  let (x, rest) ← gather v .sums x rest
  if rest = [] then some x else none

variable {v : Valuation} {is js : List Item} {x y : ℚ}

theorem total_eq_some : total v is = some x ↔ ∃ a r b s c t, operand false is = some (a, r) ∧
    gather v .powers a r = some (b, s) ∧ gather v .products b s = some (c, t) ∧
    gather v .sums c t = some (x, []) := by
  simp only [total, Option.bind_eq_bind, Option.bind_eq_some_iff, Prod.exists]
  constructor
  · rintro ⟨a, r, read, b, s, powers, c, t, products, d, u, sums, done⟩
    split at done
    · next empty =>
      cases done
      subst empty
      exact ⟨a, r, b, s, c, t, read, powers, products, sums⟩
    · cases done
  · rintro ⟨a, r, b, s, c, t, read, powers, products, sums⟩
    exact ⟨a, r, read, b, s, powers, c, t, products, x, [], sums, by simp⟩

theorem total_value (v : Valuation) (x : ℚ) : total v [.value x] = some x := rfl

/-- A plus sign in front changes nothing. -/
theorem total_plus (v : Valuation) (is : List Item) : total v (.sign .plus :: is) = total v is :=
  rfl

theorem total_divide (v : Valuation) (x y : ℚ) :
    total v [.value x, .sign .divide, .value y] = quotient? x y := by
  cases quotient : quotient? x y <;>
    simp [total, operand, chain, gather, Sign.level, Valuation.apply, quotient]

theorem total_times (v : Valuation) (x y : ℚ) :
    total v [.value x, .sign .times, .value y] = some (x * y) := by
  simp [total, operand, chain, gather, Sign.level, Valuation.apply]

mutual

/-- A sign behind operands continues their chain. -/
theorem operand_append {s : Sign} {t : Chain} (next : operand false js = some (y, t)) :
    ∀ {is : List Item} {negative : Bool} {x : ℚ} {r : Chain}, operand negative is = some (x, r) →
      operand negative (is ++ .sign s :: js) = some (x, r ++ (s, y) :: t)
  | [], _, _, _, read => by simp [operand] at read
  | .value z :: is, negative, x, r, read => by
    simp only [operand, Option.map_eq_some_iff, Prod.mk.injEq] at read
    obtain ⟨rest, read, rfl, rfl⟩ := read
    simp [operand, chain_append next read]
  | .sign .minus :: is, negative, x, r, read => by
    simp only [operand] at read
    simp [operand, operand_append next read]
  | .sign .plus :: is, negative, x, r, read => by
    simp only [operand] at read
    simp [operand, operand_append next read]
  | .sign .times :: is, _, _, _, read => by simp [operand] at read
  | .sign .divide :: is, _, _, _, read => by simp [operand] at read
  | .sign .power :: is, _, _, _, read => by simp [operand] at read

theorem chain_append {s : Sign} {t : Chain} (next : operand false js = some (y, t)) :
    ∀ {is : List Item} {r : Chain}, chain is = some r →
      chain (is ++ .sign s :: js) = some (r ++ (s, y) :: t)
  | [], r, read => by
    simp only [chain, Option.some.injEq] at read
    subst read
    simp [chain, next]
  | .sign u :: is, r, read => by
    simp only [chain, Option.map_eq_some_iff, Prod.exists] at read
    obtain ⟨z, rest, read, rfl⟩ := read
    simp [chain, operand_append next read]
  | .value _ :: is, _, read => by simp [chain] at read

end

/-- A sign of another level keeps the chains on its two sides apart. -/
theorem gather_append {l : Level} {s : Sign} (other : s.level ≠ l) {r r' t t' : Chain} {x' y' : ℚ}
    (first : gather v l x r = some (x', r')) (second : gather v l y t = some (y', t')) :
    gather v l x (r ++ (s, y) :: t) = some (x', r' ++ (s, y') :: t') := by
  induction r generalizing x x' r' with
  | nil =>
    simp only [gather, Option.some.injEq, Prod.mk.injEq] at first
    obtain ⟨rfl, rfl⟩ := first
    simp [gather, other, second]
  | cons head r ih =>
    obtain ⟨u, z⟩ := head
    by_cases same : u.level = l
    · simp only [gather, same, if_true, Option.bind_eq_some_iff] at first
      obtain ⟨w, applied, first⟩ := first
      simp [gather, same, applied, ih first]
    · simp only [gather, same, if_false, Option.map_eq_some_iff, Prod.exists, Prod.mk.injEq] at first
      obtain ⟨w, rest, first, rfl, rfl⟩ := first
      simp [gather, same, ih first]

/-- A chain that is worked off whole is worked off first. -/
theorem gather_append_done {l : Level} {r : Chain} {x' : ℚ}
    (first : gather v l x r = some (x', [])) (t : Chain) :
    gather v l x (r ++ t) = gather v l x' t := by
  induction r generalizing x with
  | nil =>
    simp only [gather, Option.some.injEq, Prod.mk.injEq, and_true] at first
    rw [first, List.nil_append]
  | cons head r ih =>
    obtain ⟨u, z⟩ := head
    by_cases same : u.level = l
    · simp only [gather, same, if_true, Option.bind_eq_some_iff] at first
      obtain ⟨w, applied, first⟩ := first
      simp [gather, same, applied, ih first]
    · simp [gather, same] at first

/-- What is added to the first operand of a sum is added to the sum. -/
theorem gather_add {t : Chain} {y' : ℚ} (sums : gather v .sums y t = some (y', [])) (x : ℚ) :
    gather v .sums (x + y) t = some (x + y', []) := by
  induction t generalizing y with
  | nil =>
    simp only [gather, Option.some.injEq, Prod.mk.injEq, and_true] at sums
    rw [gather, sums]
  | cons head t ih =>
    obtain ⟨u, z⟩ := head
    by_cases same : u.level = .sums
    · simp only [gather, same, if_true, Option.bind_eq_some_iff] at sums ⊢
      obtain ⟨w, applied, sums⟩ := sums
      refine ⟨x + w, ?_, ih sums⟩
      cases u with
      | plus =>
        cases applied
        simp [Valuation.apply, add_assoc]
      | minus =>
        cases applied
        simp [Valuation.apply, add_sub_assoc]
      | times => cases same
      | divide => cases same
      | power => cases same
    · simp [gather, same] at sums

/-- A plus sign between two sequences adds their values. -/
theorem total_add (first : total v is = some x) (second : total v js = some y) :
    total v (is ++ .sign .plus :: js) = some (x + y) := by
  obtain ⟨a, r, b, s, c, t, read, powers, products, sums⟩ := total_eq_some.1 first
  obtain ⟨a', r', b', s', c', t', read', powers', products', sums'⟩ := total_eq_some.1 second
  refine total_eq_some.2 ⟨a, _, b, _, c, _, operand_append read' read,
    gather_append (by decide) powers powers', gather_append (by decide) products products', ?_⟩
  rw [gather_append_done sums]
  exact gather_add sums' x

theorem total_intercalate {iss : List (List Item)} {xs : List ℚ}
    (totals : List.Forall₂ (fun is x => total v is = some x) iss xs) (some_sequence : iss ≠ []) :
    total v (List.intercalate [.sign .plus] iss) = some xs.sum := by
  induction totals with
  | nil => exact absurd rfl some_sequence
  | @cons is x iss xs first rest ih =>
    cases rest with
    | nil => simpa using first
    | @cons js y jss ys second rest =>
      have others := ih (by simp)
      rw [List.intercalate_cons_cons, List.append_assoc, List.sum_cons]
      exact total_add first others

end Item

/-! ## Functions -/

/-- An argument of a function: a single value, or those of the cells of a range. -/
inductive Argument where
  | value (x : ℚ)
  | cells (xs : List ℚ)

namespace Argument

def values : Argument → List ℚ
  | .value x => [x]
  | .cells xs => xs

end Argument

/-- The functions that have a value. -/
inductive Function where
  | sum
  | average
  | sumproduct
  | ln
  | pv
  | log10
  deriving DecidableEq, Repr

namespace Function

/-- The functions by the names under which they are known. -/
def named : List (Text × Function) := [
  ("SUM", .sum), ("AVERAGE", .average), ("SUMPRODUCT", .sumproduct), ("LN", .ln), ("PV", .pv),
  ("LOG10", .log10)]

/-- The function with a name in any letter case. -/
def ofName? (name : Text) : Option Function := named.lookup (Inline.key name)

def value (v : Valuation) : Function → List Argument → Option ℚ
  | .sum, arg :: args => some ((arg :: args).flatMap Argument.values).sum
  | .average, args =>
    let xs := args.flatMap Argument.values
    quotient? xs.sum xs.length
  | .sumproduct, [.cells xs, .cells ys] =>
    if xs.length = ys.length then some (List.zipWith (· * ·) xs ys).sum else none
  | .ln, [.value x] => do
    let base ← v.log 2.71828
    let unit ← quotient? 1 base
    let y ← v.log x
    return unit * y
  | .pv, [.value rate, .value number, .value amount] => do
    let growth ← v.power (1 + rate) (-number)
    quotient? (-amount * (1 - growth)) rate
  | .log10, [.value x] => v.log x
  | _, _ => none

theorem value_pv {v : Valuation} {xs : List Argument} {x : ℚ} (found : value v .pv xs = some x) :
    ∃ rate number amount growth, xs = [rate, number, amount].map .value ∧
      v.power (1 + rate) (-number) = some growth ∧
      quotient? (-amount * (1 - growth)) rate = some x := by
  unfold value at found
  split at found
  case h_5 rate number amount _ =>
    obtain ⟨growth, power, quotient⟩ := Option.bind_eq_some_iff.1 found
    exact ⟨rate, number, amount, growth, rfl, power, quotient⟩
  all_goals contradiction

theorem value_ln {v : Valuation} {xs : List Argument} {x : ℚ} (found : value v .ln xs = some x) :
    ∃ y base unit log, xs = [y].map .value ∧ v.log 2.71828 = some base ∧
      quotient? 1 base = some unit ∧ v.log y = some log ∧ unit * log = x := by
  unfold value at found
  split at found
  case h_4 y _ =>
    simp only [Option.bind_eq_bind, Option.bind_eq_some_iff, Option.pure_def,
      Option.some.injEq] at found
    obtain ⟨base, logBase, unit, inverse, log, logArg, product⟩ := found
    exact ⟨y, base, unit, log, rfl, logBase, inverse, logArg, product⟩
  all_goals contradiction

end Function

/-! ## Trees -/

namespace Node

def cellValues (v : Valuation) (a b : Ref) : List ℚ :=
  (Area.refs a b).map fun r => v.cell r.sheet r.address

/-- An argument by the range that it consists of, if it does, or else by its value. -/
def argument? (v : Valuation) : Option (Ref × Ref) → Option ℚ → Option Argument
  | some (a, b), _ => some (.cells (cellValues v a b))
  | none, x => x.map .value

mutual

/-- What a node is among operands and signs; white space is nothing. -/
def items (v : Valuation) : Node → Option (List Item)
  | .leaf (.number t) => (Literal.amount? t).map fun x => [.value x]
  | .leaf (.op t) => (Sign.ofText? t).map fun s => [.sign s]
  | .leaf (.space _) => some []
  | .ref r => some [.value (v.cell r.sheet r.address)]
  | .group body true => ((itemsAll v body).bind (Item.total v)).map fun x => [.value x]
  | .call name args true => do
    let f ← Function.ofName? name
    let xs ← argumentValues v args
    let x ← f.value v xs
    return [.value x]
  | _ => none

def itemsAll (v : Valuation) : List Node → Option (List Item)
  | [] => some []
  | n :: ns => do
    let first ← items v n
    let rest ← itemsAll v ns
    return first ++ rest

/-- The values of arguments. A range is an argument only by itself. -/
def argumentValues (v : Valuation) : List (List Node) → Option (List Argument)
  | [] => some []
  | arg :: args => do
    let first ← argument? v (range? arg) ((itemsAll v arg).bind (Item.total v))
    let rest ← argumentValues v args
    return first :: rest

end

def value (v : Valuation) (ns : List Node) : Option ℚ := (itemsAll v ns).bind (Item.total v)

variable {v : Valuation}

theorem value_eq_some {ns : List Node} {x : ℚ} :
    value v ns = some x ↔ ∃ is, itemsAll v ns = some is ∧ Item.total v is = some x :=
  Option.bind_eq_some_iff

theorem itemsAll_nil (v : Valuation) : itemsAll v [] = some [] := rfl

theorem itemsAll_cons {n : Node} {ns : List Node} {is : List Item} :
    itemsAll v (n :: ns) = some is ↔
      ∃ js ks, items v n = some js ∧ itemsAll v ns = some ks ∧ is = js ++ ks := by
  simp only [itemsAll, Option.bind_eq_bind, Option.bind_eq_some_iff, Option.pure_def,
    Option.some.injEq]
  exact ⟨fun ⟨js, first, ks, rest, whole⟩ => ⟨js, ks, first, rest, whole.symm⟩,
    fun ⟨js, ks, first, rest, whole⟩ => ⟨js, first, ks, rest, whole.symm⟩⟩

theorem itemsAll_append {ms ns : List Node} {is : List Item} :
    itemsAll v (ms ++ ns) = some is ↔
      ∃ js ks, itemsAll v ms = some js ∧ itemsAll v ns = some ks ∧ is = js ++ ks := by
  induction ms generalizing is with
  | nil => simp [itemsAll_nil]
  | cons m ms ih =>
    simp only [List.cons_append, itemsAll_cons, ih]
    constructor
    · rintro ⟨js, _, first, ⟨ks, ls, rest, last, rfl⟩, rfl⟩
      exact ⟨_, ls, ⟨js, ks, first, rest, rfl⟩, last, by simp⟩
    · rintro ⟨_, ls, ⟨js, ks, first, rest, rfl⟩, last, rfl⟩
      exact ⟨js, _, first, ⟨ks, ls, rest, last, rfl⟩, by simp⟩

theorem items_group {body : List Node} {x : ℚ} (inside : value v body = some x) :
    items v (.group body true) = some [.value x] :=
  Option.map_eq_some_iff.2 ⟨x, inside, rfl⟩

theorem items_number {t : Text} {x : ℚ} (known : Literal.amount? t = some x) :
    items v (.leaf (.number t)) = some [.value x] :=
  Option.map_eq_some_iff.2 ⟨x, known, rfl⟩

theorem items_operator {t : Text} {s : Sign} (sign : Sign.ofText? t = some s) :
    items v (.leaf (.op t)) = some [.sign s] :=
  Option.map_eq_some_iff.2 ⟨s, sign, rfl⟩

theorem items_call {name : Text} {args : List (List Node)} {is : List Item} :
    items v (.call name args true) = some is ↔ ∃ f xs x, Function.ofName? name = some f ∧
      argumentValues v args = some xs ∧ f.value v xs = some x ∧ is = [.value x] := by
  simp only [items, Option.bind_eq_bind, Option.bind_eq_some_iff, Option.pure_def,
    Option.some.injEq]
  exact ⟨fun ⟨f, named, xs, known, x, result, whole⟩ => ⟨f, xs, x, named, known, result, whole.symm⟩,
    fun ⟨f, xs, x, named, known, result, whole⟩ => ⟨f, named, xs, known, x, result, whole.symm⟩⟩

theorem argument?_eq_value {range : Option (Ref × Ref)} {single : Option ℚ} {x : ℚ} :
    argument? v range single = some (.value x) ↔ range = none ∧ single = some x := by
  cases range <;> simp [argument?]

theorem argumentValues_cons {arg : List Node} {args : List (List Node)} {xs : List Argument} :
    argumentValues v (arg :: args) = some xs ↔
      ∃ y ys, argument? v (range? arg) (value v arg) = some y ∧
        argumentValues v args = some ys ∧ xs = y :: ys := by
  simp only [argumentValues, Option.bind_eq_bind, Option.bind_eq_some_iff, Option.pure_def,
    Option.some.injEq]
  exact ⟨fun ⟨y, first, ys, rest, whole⟩ => ⟨y, ys, first, rest, whole.symm⟩,
    fun ⟨y, ys, first, rest, whole⟩ => ⟨y, first, ys, rest, whole.symm⟩⟩

theorem singles_of_argumentValues {args : List (List Node)} {xs : List ℚ}
    (known : argumentValues v args = some (xs.map .value)) :
    List.Forall₂ (fun arg x => range? arg = none ∧ value v arg = some x) args xs := by
  induction args generalizing xs with
  | nil =>
    obtain rfl : xs = [] := by simpa [argumentValues] using known.symm
    exact .nil
  | cons arg args ih =>
    obtain ⟨y, ys, first, rest, same⟩ := argumentValues_cons.1 known
    obtain ⟨x, zs, rfl, rfl, rfl⟩ := List.map_eq_cons_iff.1 same
    exact .cons (argument?_eq_value.1 first) (ih rest)

def afterEquals : List Node → List Node
  | .leaf (.op ['=']) :: ns => ns
  | ns => ns

end Node

/-- The value of a formula, which may have an equals sign in front. -/
def Valuation.value (v : Valuation) (formula : Text) : Option ℚ :=
  Node.value v (Node.afterEquals (Parser.parse formula))

end CellGraph
