import CellGraph.Proofs.Dialect.Value
import CellGraph.Proofs.Expr.Tree
import CellGraph.Proofs.Parsing.Lossless
import CellGraph.Proofs.Parsing.Tight

/-!
# Proper trees

A tree is proper if it consists of numbers, references, ranges, signs of arithmetic, white space
and closed brackets, with no two operands and no two runs of white space side by side. A proper
tree is read back from its text, wherever its parts come from (`parse_textAll_of_proper`). The
tree of a formula that has a value is proper (`proper_of_value`).
-/

namespace CellGraph

/-- The tokens that are leaves of proper trees. -/
def Token.Arithmetic : Token → Prop
  | .number t => Whole (.number t)
  | .op t => (Sign.ofText? t).isSome ∨ t = ['=']
  | .space t => Whole (.space t)
  | _ => False

namespace Node

def isOperand : Node → Bool
  | .leaf (.number _) => true
  | .leaf _ => false
  | _ => true

def Beside (m n : Node) : Prop :=
  ¬ (m.isSpace ∧ n.isSpace) ∧ ¬ (m.isOperand ∧ n.isOperand)

mutual

/-- A node of arithmetic. -/
def Proper : Node → Prop
  | .leaf t => t.Arithmetic
  | .ref r => r.Formed
  | .range a b => a.Formed ∧ b.Formed
  | .group body closed => closed ∧ ProperAll body
  | .call name args closed =>
    closed ∧ Token.Whole (.func name) ∧ args ≠ [] ∧ ProperArgs args

/-- Nodes of arithmetic that may stand side by side. -/
def ProperAll : List Node → Prop
  | [] => True
  | n :: ns => Proper n ∧ (∀ m ∈ ns.head?, Beside n m) ∧ ProperAll ns

def ProperArgs : List (List Node) → Prop
  | [] => True
  | arg :: args => ProperAll arg ∧ ProperArgs args

end

theorem properAll_iff {ns : List Node} :
    ProperAll ns ↔ (∀ n ∈ ns, Proper n) ∧ ns.IsChain Beside := by
  induction ns with
  | nil => simp [ProperAll]
  | cons n ns ih =>
    rw [ProperAll, ih, List.isChain_cons, List.forall_mem_cons]
    tauto

theorem properArgs_iff {args : List (List Node)} :
    ProperArgs args ↔ ∀ arg ∈ args, ProperAll arg := by
  induction args with
  | nil => simp [ProperArgs]
  | cons arg args ih => simp [ProperArgs, ih]

end Node

/-! ## Signs -/

namespace Token

theorem sign_cases {t : Text} (sign : (Sign.ofText? t).isSome ∨ t = ['=']) :
    t = ['+'] ∨ t = ['-'] ∨ t = ['*'] ∨ t = ['/'] ∨ t = ['^'] ∨ t = ['='] := by
  rcases sign with sign | rfl
  · unfold Sign.ofText? at sign
    split at sign <;> simp_all
  · simp

/-- A sign is whole and ends in front of everything. -/
theorem whole_of_sign {t : Text} (sign : (Sign.ofText? t).isSome ∨ t = ['=']) :
    Whole (.op t) ∧ ∀ rest, Apart (.op t) rest := by
  rcases sign_cases sign with rfl | rfl | rfl | rfl | rfl | rfl <;> simp [Whole, Apart] <;> rfl

end Token

/-! ## Reading back -/

namespace Node

/-- The operands among proper nodes are all those that are operands of a formula. -/
theorem isOperand_of_isTerm {n : Node} (proper : n.Proper) (term : n.isTerm) : n.isOperand := by
  cases n with
  | leaf t =>
    cases t with
    | number t => rfl
    | string t => cases proper
    | name t => cases proper
    | _ => cases term
  | _ => rfl

/-- Proper nodes that may stand side by side stay apart. -/
theorem parted_of_beside {m n : Node} (first : m.Proper) (second : n.Proper)
    (beside : Beside m n) : Parted m n where
  terms := fun both =>
    beside.2 ⟨isOperand_of_isTerm first both.1, isOperand_of_isTerm second both.2⟩
  spaces := beside.1
  ended := by
    rintro t rfl
    cases t with
    | string t => cases first
    | _ => trivial
  operators := by
    rintro t u rfl -
    exact (Token.whole_of_sign first).2 u

theorem joins_of_proper (m : Node) {ns : List Node} (proper : ProperAll ns) :
    joins m ns = false := by
  unfold joins
  split
  · cases proper.1
  · cases proper.1
  · rfl

mutual

theorem tight_of_proper : ∀ {n : Node}, n.Proper → ∀ s, Tight s n
  | .leaf (.number _), proper, _ => tight_number proper
  | .leaf (.op _), proper, s =>
    ⟨(Token.whole_of_sign proper).1, by cases s <;> rfl, fun _ => trivial⟩
  | .leaf (.space _), proper, s => ⟨proper, by cases s <;> rfl, fun _ => trivial⟩
  | .ref _, proper, _ | .range _ _, proper, _ => proper
  | .group _ _, ⟨isClosed, proper⟩, _ => ⟨isClosed, tightAll_of_proper proper .group⟩
  | .call _ _ _, ⟨isClosed, named, some_arg, proper⟩, _ =>
    ⟨isClosed, named, some_arg, tightArgs_of_proper proper⟩

theorem tightAll_of_proper : ∀ {ns : List Node}, ProperAll ns → ∀ s, TightAll s ns
  | [], _, _ => trivial
  | n :: _, ⟨proper, beside, others⟩, s => by
    refine ⟨tight_of_proper proper s, joins_of_proper n others, fun m head => ?_,
      tightAll_of_proper others s⟩
    obtain ⟨ms, rfl⟩ := List.head?_eq_some_iff.1 head
    exact parted_of_beside proper others.1 (beside m rfl)

theorem tightArgs_of_proper : ∀ {args : List (List Node)}, ProperArgs args → TightArgs args
  | [], _ => trivial
  | _ :: _, ⟨proper, others⟩ => ⟨tightAll_of_proper proper .argument, tightArgs_of_proper others⟩

end

mutual

theorem settle_of_proper : ∀ {n : Node}, n.Proper → n.settle = n
  | .leaf (.number _), proper => congrArg leaf (Token.settle_of_whole proper)
  | .leaf (.op _), _ | .leaf (.space _), _ | .ref _, _ | .range _ _, _ => rfl
  | .group _ closed, ⟨_, proper⟩ => congrArg (group · closed) (settleAll_of_proper proper)
  | .call name _ closed, ⟨_, _, _, proper⟩ =>
    congrArg (call name · closed) (settleArgs_of_proper proper)

theorem settleAll_of_proper : ∀ {ns : List Node}, ProperAll ns → settleAll ns = ns
  | [], _ => rfl
  | _ :: _, ⟨proper, _, others⟩ =>
    congrArg₂ List.cons (settle_of_proper proper) (settleAll_of_proper others)

theorem settleArgs_of_proper : ∀ {args : List (List Node)}, ProperArgs args →
    settleArgs args = args
  | [], _ => rfl
  | _ :: _, ⟨proper, others⟩ =>
    congrArg₂ List.cons (settleAll_of_proper proper) (settleArgs_of_proper others)

end

end Node

/-- A proper tree is read back from its text. -/
theorem Parser.parse_textAll_of_proper {ns : List Node} (proper : Node.ProperAll ns) :
    parse (Node.textAll ns) = ns := by
  rw [parse_textAll_of_tight (Node.tightAll_of_proper proper .top), Node.settleAll_of_proper proper]

/-! ## Trees with a value -/

namespace Item

def isValue : Item → Bool
  | .value _ => true
  | .sign _ => false

/-- Items of which not both are operands. -/
def Divided (i j : Item) : Prop := ¬ (i.isValue ∧ j.isValue)

mutual

/-- What can be read has no two operands side by side. -/
theorem divided_of_operand : ∀ {is : List Item} {negative : Bool} {read : ℚ × Chain},
    operand negative is = some read → is.IsChain Divided
  | [], _, _, found => by simp [operand] at found
  | .value z :: is, negative, read, found => by
    simp only [operand, Option.map_eq_some_iff] at found
    obtain ⟨rest, found, -⟩ := found
    refine List.isChain_cons.2 ⟨?_, divided_of_chain found⟩
    rintro i head ⟨-, isValue⟩
    cases is with
    | nil => cases head
    | cons j is =>
      cases head
      cases i with
      | value _ => simp [chain] at found
      | sign _ => cases isValue
  | .sign s :: is, negative, read, found => by
    have behind : ∃ negative read, operand negative is = some read := by
      cases s with
      | plus => exact ⟨_, _, found⟩
      | minus => exact ⟨_, _, found⟩
      | _ => simp [operand] at found
    obtain ⟨_, _, found⟩ := behind
    exact List.isChain_cons.2 ⟨fun _ _ both => Bool.false_ne_true both.1, divided_of_operand found⟩

theorem divided_of_chain : ∀ {is : List Item} {rest : Chain}, chain is = some rest →
    is.IsChain Divided
  | [], _, _ => .nil
  | .sign s :: is, _, found => by
    simp only [chain, Option.map_eq_some_iff] at found
    obtain ⟨_, found, -⟩ := found
    exact List.isChain_cons.2 ⟨fun _ _ both => Bool.false_ne_true both.1, divided_of_operand found⟩
  | .value _ :: _, _, found => by simp [chain] at found

end

theorem divided_of_total {v : Valuation} {is : List Item} {x : ℚ} (found : total v is = some x) :
    is.IsChain Divided := by
  obtain ⟨_, _, _, _, _, _, read, -⟩ := total_eq_some.1 found
  exact divided_of_operand read

end Item

namespace Node

open Token (Spaced Whole)

/-- What is known of the tokens of every formula. -/
structure Sound (ts : List Token) : Prop where
  whole : ∀ t ∈ ts, Token.isOther t = false → (∀ name, t ≠ .name name) → Whole t
  spaced : ts.IsChain Spaced

theorem sound_tokens (formula : Text) : Sound (Token.tokens formula) :=
  ⟨fun _ => Token.whole_of_mem_tokens, Token.spaced_tokens formula⟩

theorem Sound.left {ts us : List Token} (sound : Sound (ts ++ us)) : Sound ts :=
  ⟨fun t member => sound.whole t (List.mem_append_left _ member), sound.spaced.left_of_append⟩

theorem Sound.right {ts us : List Token} (sound : Sound (ts ++ us)) : Sound us :=
  ⟨fun t member => sound.whole t (List.mem_append_right _ member), sound.spaced.right_of_append⟩

theorem Sound.tail {t : Token} {ts : List Token} (sound : Sound (t :: ts)) : Sound ts := by
  have whole : Sound ([t] ++ ts) := sound
  exact whole.right

theorem beside_of_sound {ns : List Node} (sound : Sound (flatAll ns))
    (operands : ns.IsChain fun m n => ¬ (m.isOperand ∧ n.isOperand)) : ns.IsChain Beside := by
  rw [List.isChain_iff_forall_rel_of_append_cons_cons] at operands ⊢
  intro m n before behind same
  refine ⟨?_, operands same⟩
  rintro ⟨first, second⟩
  have spaced := List.isChain_iff_forall_rel_of_append_cons_cons.1 sound.spaced
  cases m with
  | leaf t =>
    cases t with
    | space t =>
      cases n with
      | leaf u =>
        cases u with
        | space u =>
          have whole : flatAll ns = flatAll before ++ .space t :: .space u :: flatAll behind := by
            simp [same, flatAll, flat]
          exact spaced whole ⟨rfl, rfl⟩
        | _ => cases second
      | _ => cases second
    | _ => cases first
  | _ => cases first

variable {v : Valuation}

/-- An operand is a value among operands and signs. -/
theorem exists_value_of_items {n : Node} {is : List Item} (found : items v n = some is)
    (operand : n.isOperand) : ∃ x, is = [.value x] := by
  unfold items at found
  split at found
  · obtain ⟨x, -, rfl⟩ := Option.map_eq_some_iff.1 found
    exact ⟨x, rfl⟩
  · cases operand
  · cases operand
  · cases found
    exact ⟨_, rfl⟩
  · obtain ⟨x, -, rfl⟩ := Option.map_eq_some_iff.1 found
    exact ⟨x, rfl⟩
  · simp only [Option.bind_eq_bind, Option.bind_eq_some_iff, Option.pure_def,
      Option.some.injEq] at found
    obtain ⟨_, -, _, -, x, -, rfl⟩ := found
    exact ⟨x, rfl⟩
  · cases found

theorem operands_of_itemsAll {ns : List Node} {is : List Item} (found : itemsAll v ns = some is)
    (divided : is.IsChain Item.Divided) :
    ns.IsChain fun m n => ¬ (m.isOperand ∧ n.isOperand) := by
  rw [List.isChain_iff_forall_rel_of_append_cons_cons] at divided ⊢
  rintro m n before behind rfl ⟨first, second⟩
  simp only [itemsAll_append, itemsAll_cons] at found
  obtain ⟨js, _, -, ⟨_, _, firstItems, ⟨_, ks, secondItems, -, rfl⟩, rfl⟩, rfl⟩ := found
  obtain ⟨x, rfl⟩ := exists_value_of_items firstItems first
  obtain ⟨y, rfl⟩ := exists_value_of_items secondItems second
  have apart : Item.Divided (.value x) (.value y) := @divided _ _ js ks rfl
  exact apart ⟨rfl, rfl⟩

theorem isSpace_of_isOperand {n : Node} (operand : n.isOperand) : n.isSpace = false := by
  cases n with
  | leaf t => cases t <;> first | rfl | cases operand
  | _ => rfl

/-- In a sequence that holds one range, no two nodes apart from white space stand side by side. -/
theorem apart_of_range? {p : Node → Prop} (solidly : ∀ n, p n → n.isSpace = false)
    {ns : List Node} {a b : Ref} (found : range? ns = some (a, b)) :
    ns.IsChain fun m n => ¬ (p m ∧ p n) := by
  rw [List.isChain_iff_forall_rel_of_append_cons_cons]
  rintro m n before behind rfl ⟨first, second⟩
  have single := congrArg List.length (solid_of_range? found)
  simp only [solid, List.filter_append, List.filter_cons, solidly m first, solidly n second,
    Bool.not_false, if_true, List.length_append, List.length_cons, List.length_nil] at single
  omega

/-- A range that is an argument by itself stands beside no operand. -/
theorem operands_of_range? {ns : List Node} {a b : Ref} (found : range? ns = some (a, b)) :
    ns.IsChain fun m n => ¬ (m.isOperand ∧ n.isOperand) :=
  apart_of_range? (p := fun n => n.isOperand) (fun _ => isSpace_of_isOperand) found

theorem Sound.of_mem {ns : List Node} (sound : Sound (flatAll ns)) {n : Node} (member : n ∈ ns) :
    Sound (flat n) := by
  obtain ⟨before, behind, rfl⟩ := List.append_of_mem member
  rw [flatAll_append, flatAll] at sound
  exact sound.right.left

theorem properAll_of_range? {ns : List Node} {a b : Ref} (found : range? ns = some (a, b))
    (sound : Sound (flatAll ns)) : ProperAll ns := by
  refine properAll_iff.2 ⟨?_, beside_of_sound sound (operands_of_range? found)⟩
  intro n member
  have whole := (sound.of_mem member).whole
  by_cases space : n.isSpace
  · cases n with
    | leaf t =>
      cases t with
      | space t => exact whole (.space t) (by simp [flat]) rfl (by rintro _ ⟨⟩)
      | _ => cases space
    | _ => cases space
  · have alone : n ∈ solid ns := by simp [solid, member, space]
    rw [solid_of_range? found, List.mem_singleton] at alone
    subst alone
    exact ⟨whole (.ref a) (by simp [flat]) rfl (by rintro _ ⟨⟩),
      whole (.ref b) (by simp [flat]) rfl (by rintro _ ⟨⟩)⟩

/-- Proper nodes with a value may stand side by side as they do. -/
theorem properAll_of_each {ns : List Node} {x : ℚ} (found : value v ns = some x)
    (sound : Sound (flatAll ns)) (each : ∀ {is}, itemsAll v ns = some is → ∀ n ∈ ns, n.Proper) :
    ProperAll ns := by
  obtain ⟨is, inside, total⟩ := value_eq_some.1 found
  exact properAll_iff.2 ⟨each inside, beside_of_sound sound
    (operands_of_itemsAll inside (Item.divided_of_total total))⟩

mutual

theorem proper_of_items : ∀ {n : Node} {is : List Item}, items v n = some is → Sound (flat n) →
    n.Proper
  | .leaf (.number t), _, _, sound =>
    sound.whole (.number t) (by simp [flat]) rfl (by rintro _ ⟨⟩)
  | .leaf (.op t), _, found, _ => by
    obtain ⟨s, sign, -⟩ := Option.map_eq_some_iff.1 found
    exact .inl (by simp [sign])
  | .leaf (.space t), _, _, sound =>
    sound.whole (.space t) (by simp [flat]) rfl (by rintro _ ⟨⟩)
  | .ref r, _, _, sound => sound.whole (.ref r) (by simp [flat]) rfl (by rintro _ ⟨⟩)
  | .group body true, _, found, sound => by
    obtain ⟨x, found, -⟩ := Option.map_eq_some_iff.1 found
    have soundBody : Sound (flatAll body) := sound.tail.left
    exact ⟨rfl, properAll_of_each found soundBody fun inside => each_of_itemsAll inside soundBody⟩
  | .call name args true, _, found, sound => by
    simp only [items, Option.bind_eq_bind, Option.bind_eq_some_iff] at found
    obtain ⟨f, -, xs, inside, x, result, -⟩ := found
    have named := sound.whole (.func name) (by simp [flat]) rfl (by rintro _ ⟨⟩)
    refine ⟨rfl, named, ?_, properArgs_of_values inside sound.tail.tail.left⟩
    rintro rfl
    cases inside
    cases f <;> simp [Function.value, quotient?] at result
  | .leaf (.string _), _, found, _ | .leaf (.ref _), _, found, _ | .leaf (.func _), _, found, _
  | .leaf (.name _), _, found, _ | .leaf .lparen, _, found, _ | .leaf .rparen, _, found, _
  | .leaf .comma, _, found, _ | .leaf .colon, _, found, _ | .leaf (.other _), _, found, _
  | .range _ _, _, found, _ | .group _ false, _, found, _ | .call _ _ false, _, found, _ => by
    cases found

theorem each_of_itemsAll : ∀ {ns : List Node} {is : List Item}, itemsAll v ns = some is →
    Sound (flatAll ns) → ∀ n ∈ ns, n.Proper
  | [], _, _, _ => by simp
  | n :: ns, _, found, sound => by
    obtain ⟨_, _, first, rest, -⟩ := itemsAll_cons.1 found
    rw [flatAll] at sound
    exact List.forall_mem_cons.2
      ⟨proper_of_items first sound.left, each_of_itemsAll rest sound.right⟩

theorem properArgs_of_values : ∀ {args : List (List Node)} {xs : List Argument},
    argumentValues v args = some xs → Sound (flatArgs args) → ProperArgs args
  | [], _, _, _ => trivial
  | arg :: args, _, found, sound => by
    obtain ⟨y, ys, first, rest, -⟩ := argumentValues_cons.1 found
    have own : Sound (flatAll arg) ∧ Sound (flatArgs args) := by
      cases args with
      | nil => exact ⟨sound, ⟨by simp [flatArgs], .nil⟩⟩
      | cons next args =>
        rw [flatArgs.eq_3 _ _ (by simp)] at sound
        exact ⟨sound.left, sound.right.tail⟩
    refine ⟨?_, properArgs_of_values rest own.2⟩
    cases range : range? arg with
    | some ends => exact properAll_of_range? range own.1
    | none =>
      rw [range] at first
      obtain ⟨x, found, -⟩ := Option.map_eq_some_iff.1 first
      exact properAll_of_each found own.1 fun inside => each_of_itemsAll inside own.1

end

theorem properAll_of_value {ns : List Node} {x : ℚ} (found : value v ns = some x)
    (sound : Sound (flatAll ns)) : ProperAll ns :=
  properAll_of_each found sound fun inside => each_of_itemsAll inside sound

/-- The tree of a formula that has a value is proper. -/
theorem proper_of_value {formula : Text} {x : ℚ} (found : v.value formula = some x) :
    ProperAll (Parser.parse formula) := by
  have sound := sound_tokens formula
  rw [← Parser.flatAll_parse] at sound
  unfold Valuation.value afterEquals at found
  split at found
  · next ns same =>
    rw [same] at sound ⊢
    refine ⟨.inr rfl, ?_, properAll_of_value found sound.tail⟩
    rintro m -
    exact ⟨by simp [isSpace], by simp [isOperand]⟩
  · exact properAll_of_value found sound

end Node

end CellGraph
