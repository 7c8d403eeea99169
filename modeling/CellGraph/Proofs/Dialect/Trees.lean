import CellGraph.Dialect.Sum
import CellGraph.Proofs.Expr.Tree

/-!
# Trees of spelled out calls

The text that a call is spelled out as is that of a bracket, whose inside is made of operators, of
numbers and of the sequences that the arguments give. Here are these trees; that they are read back
from the text is another matter.
-/

namespace CellGraph

namespace Node

/-! ## Signs and brackets -/

abbrev operator (c : Char) : Node := .leaf (.op [c])

/-- Sequences with plus signs between them. -/
def joined (terms : List (List Node)) : List Node := List.intercalate [operator '+'] terms

theorem textAll_group (body ns : List Node) :
    textAll (.group body true :: ns) = '(' :: (textAll body ++ ')' :: textAll ns) := by
  simp [textAll, writeAll, write, closing]

theorem textAll_call (name : Text) (arg ns : List Node) :
    textAll (.call name [arg] true :: ns) = name ++ '(' :: (textAll arg ++ ')' :: textAll ns) := by
  simp [textAll, writeAll, writeArgs, write, closing]

theorem textAll_leaf (t : Token) (ns : List Node) : textAll (.leaf t :: ns) = t.text ++ textAll ns :=
  rfl

theorem textAll_nil : textAll [] = [] := rfl

theorem textAll_joined (terms : List (List Node)) :
    textAll (joined terms) = List.intercalate ['+'] (terms.map textAll) := by
  induction terms with
  | nil => rfl
  | cons t terms ih =>
    cases terms with
    | nil => simp [joined]
    | cons u terms =>
      simp only [joined, List.map_cons, List.intercalate_cons_cons, textAll_append] at ih ⊢
      rw [ih]
      rfl

theorem textAll_ref (r : Ref) : textAll [.ref r] = r.text := by
  simp [textAll, writeAll, write]

/-! ## Means -/

/-- The sequences that an argument adds to a mean: the cells of a range, or the argument. -/
def termNodes (arg : List Node) : List (List Node) :=
  match range? arg with
  | some (a, b) => (Area.refs a b).map fun r => [.ref r]
  | none => [arg]

theorem text_of_terms? {arg : List Node} {ts : List Text} (found : Inline.terms? arg = some ts) :
    ts = (termNodes arg).map textAll := by
  unfold Inline.terms? at found
  split at found
  · next a b alone =>
    split at found
    · cases found
    · cases found
      simp [termNodes, range?_of_sole? alone, textAll_ref, Function.comp_def]
  · next noRange =>
    cases found
    have other : range? arg = none := by
      unfold range?
      split
      · next a b alone => exact absurd alone (noRange a b)
      · rfl
    simp [termNodes, other]

theorem text_of_mapM_terms? {args : List (List Node)} {tss : List (List Text)}
    (found : args.mapM Inline.terms? = some tss) :
    tss.flatten = (args.flatMap termNodes).map textAll := by
  have each := Option.forall₂_of_mapM found
  clear found
  induction each with
  | nil => rfl
  | cons first _ ih => simp [text_of_terms? first, ih]

/-- The tree of the mean of sequences. -/
def mean (terms : List (List Node)) : List Node :=
  [.group (joined terms) true, operator '/', .leaf (.number (Text.ofNat terms.length))]

theorem average_eq_some {args : List (List Node)} {t : Text}
    (spelled : Inline.average args = some t) : args.flatMap termNodes ≠ [] ∧
      t = textAll [.group (mean (args.flatMap termNodes)) true] := by
  simp only [Inline.average, Option.bind_eq_bind, Option.bind_eq_some_iff] at spelled
  obtain ⟨tss, found, spelled⟩ := spelled
  rw [text_of_mapM_terms? found] at spelled
  split at spelled
  · cases spelled
  · next some_text =>
    cases spelled
    refine ⟨by simpa using some_text, ?_⟩
    simp [mean, textAll_group, textAll_leaf, textAll_nil, textAll_joined, Token.text]

/-! ## Sums of products -/

theorem flatMap_plus {α : Type} (f : α → Text) {xs : List α} (some_item : xs ≠ []) :
    (xs.flatMap fun x => '+' :: f x) = '+' :: List.intercalate ['+'] (xs.map f) := by
  induction xs with
  | nil => exact absurd rfl some_item
  | cons x xs ih =>
    cases xs with
    | nil => simp
    | cons y ys =>
      rw [List.flatMap_cons, ih (by simp), List.map_cons, List.map_cons, List.map_cons,
        List.intercalate_cons_cons]
      simp

def product (p : Ref × Ref) : List Node := [.ref p.1, operator '*', .ref p.2]

theorem textAll_product (p : Ref × Ref) :
    textAll (product p) = p.1.text ++ '*' :: p.2.text := by
  simp [product, textAll, writeAll, write, Token.text]

/-- The tree of a sum of products, with a plus sign in front of each. -/
def products (pairs : List (Ref × Ref)) : List Node :=
  operator '+' :: joined (pairs.map product)

theorem textAll_products {pairs : List (Ref × Ref)} (some_pair : pairs ≠ []) :
    textAll (products pairs) = pairs.flatMap fun (l, r) => '+' :: l.text ++ '*' :: r.text := by
  have texts : textAll ∘ product = fun p => p.1.text ++ '*' :: p.2.text := funext textAll_product
  have spread := flatMap_plus (fun p : Ref × Ref => p.1.text ++ '*' :: p.2.text) some_pair
  rw [products, textAll_leaf, textAll_joined, List.map_map, texts]
  exact spread.symm

theorem sumproduct_eq_some {args : List (List Node)} {t : Text}
    (spelled : Inline.sumproduct args = some t) :
    ∃ first second a b c d, args = [first, second] ∧ range? first = some (a, b) ∧
      range? second = some (c, d) ∧ (Area.refs a b).length = (Area.refs c d).length ∧
      (Area.refs a b).zip (Area.refs c d) ≠ [] ∧
      t = textAll [.group (products ((Area.refs a b).zip (Area.refs c d))) true] := by
  obtain ⟨first, second, a, b, c, d, rfl, left, right, some_ref, fits, rfl⟩ :=
    Inline.sumproduct_eq_some spelled
  have some_pair : (Area.refs a b).zip (Area.refs c d) ≠ [] := by
    intro empty
    have length := congrArg List.length empty
    simp only [List.length_zip, ← fits, Nat.min_self, List.length_nil,
      List.length_eq_zero_iff] at length
    exact some_ref length
  refine ⟨first, second, a, b, c, d, rfl, range?_of_sole? left, range?_of_sole? right, fits,
    some_pair, ?_⟩
  rw [textAll_group, textAll_products some_pair]
  rfl

/-! ## Logarithms -/

def logarithm (arg : List Node) : Node := .call "log10" [arg] true

abbrev blank : Node := .leaf (.space [' '])

def one : Node := .leaf (.number ['1'])

/-- The base of natural logarithms, as far as it is written. -/
def base : Node := .leaf (.number "2.71828")

def naturalLogarithm (arg : List Node) : List Node :=
  [one, blank, operator '/', blank, logarithm [base], blank, operator '*', blank, logarithm arg]

theorem ln_eq_some {args : List (List Node)} {t : Text} (spelled : Inline.ln args = some t) :
    ∃ arg, args = [arg] ∧ t = textAll [.group (naturalLogarithm arg) true] := by
  unfold Inline.ln at spelled
  split at spelled
  · next arg =>
    cases spelled
    refine ⟨arg, rfl, ?_⟩
    simp [naturalLogarithm, logarithm, one, base, textAll_group, textAll_leaf, textAll_call,
      textAll_nil, Token.text]
  · cases spelled

/-! ## Present values -/

/-- What is left of one by a power, in the tree of a present value. -/
def discount (rate nper : List Node) : List Node :=
  [one, operator '-', .group [one, operator '+', .group rate true] true, operator '^',
    .group [operator '-', .group nper true] true]

def presentValue (rate nper pmt : List Node) : List Node :=
  [operator '-', .group pmt true, operator '*', .group (discount rate nper) true, operator '/',
    .group rate true]

theorem textAll_presentValue (rate nper pmt : List Node) :
    textAll [.group (presentValue rate nper pmt) true] =
      "(-(" ++ textAll pmt ++ ")*(1-(1+(" ++ textAll rate ++ "))^(-(" ++ textAll nper ++
        ")))/(" ++ textAll rate ++ "))" := by
  simp [presentValue, discount, one, textAll_group, textAll_leaf, textAll_nil, Token.text]

/-! ## Columns -/

theorem textAll_column (refs : List Ref) :
    textAll [.group (joined (refs.map fun r => [.ref r])) true] = Sum.spell refs := by
  simp [textAll_group, textAll_nil, textAll_joined, textAll_ref, Sum.spell, Function.comp_def]

end Node
end CellGraph
