import CellGraph.Proofs.Expr.Tree
import CellGraph.Proofs.Parsing.Tight

/-!
# Calls

The calls of a formula, at any depth. Of the arguments of a call only the surface counts: what is
seen of them without looking into brackets. It tells which arguments are blank, references or ranges,
and it is the same for a tree and for the tree that is read back from its text
(`callsAll_settleAll`).
-/

namespace CellGraph

theorem Token.settle_settle (t : Token) : t.settle.settle = t.settle := by
  rcases t.settle_cases with same | ⟨w, rfl, read⟩
  · rw [same, same]
  · rw [read]
    rfl

/-- A call: its name as written and its arguments. -/
structure Call where
  name : Text
  args : List (List Node)

namespace Node

/-! ## Surfaces -/

/-- What is seen of a node without looking into it. All brackets look alike, and a number that is
written as a word looks like the name as which it is read. -/
def surface : Node → Node
  | .leaf t => .leaf t.settle
  | .group _ _ | .call _ _ _ => .group [] true
  | n => n

abbrev surfaces (ns : List Node) : List Node := ns.map surface

@[simp] theorem isSpace_surface (n : Node) : n.surface.isSpace = n.isSpace := by
  cases n with
  | leaf t =>
    rcases t.settle_cases with same | ⟨w, rfl, read⟩
    · rw [surface, same]
    · rw [surface, read]
      rfl
  | _ => rfl

theorem solid_surfaces (ns : List Node) : solid (surfaces ns) = surfaces (solid ns) := by
  simp [solid, List.filter_map, Function.comp_def]

theorem sole?_surfaces (ns : List Node) : sole? (surfaces ns) = (sole? ns).map surface := by
  unfold sole?
  rw [solid_surfaces]
  match solid ns with
  | [] => rfl
  | [n] => rfl
  | n :: m :: ms => rfl

theorem arguments_surfaces (args : List (List Node)) :
    arguments (args.map surfaces) = (arguments args).map surfaces := by
  unfold arguments
  rcases args with _ | ⟨arg, _ | ⟨next, args⟩⟩
  · rfl
  · simp only [List.map_cons, List.map_nil, solid_surfaces, List.map_eq_nil_iff]
    split <;> rfl
  · rfl

/-! ## Calls of a tree -/

/-- The call that a node is, with the surfaces of its arguments. -/
def call? : Node → Option Call
  | .call name args _ => some ⟨name, args.map surfaces⟩
  | _ => none

/-- The calls of a node and of all nodes inside it. -/
def calls (n : Node) : List Call := (walk n).filterMap call?

/-- The calls of a sequence, at any depth. -/
def callsAll (ns : List Node) : List Call := (walkAll ns).filterMap call?

@[simp] theorem callsAll_nil : callsAll [] = [] := rfl

@[simp] theorem callsAll_cons (n : Node) (ns : List Node) :
    callsAll (n :: ns) = n.calls ++ callsAll ns := by
  simp [callsAll, calls, walkAll]

@[simp] theorem callsAll_append (ms ns : List Node) :
    callsAll (ms ++ ns) = callsAll ms ++ callsAll ns := by
  induction ms with
  | nil => rfl
  | cons m ms ih => simp [ih]

@[simp] theorem calls_leaf (t : Token) : calls (.leaf t) = [] := rfl

@[simp] theorem calls_ref (r : Ref) : calls (.ref r) = [] := rfl

@[simp] theorem calls_range (a b : Ref) : calls (.range a b) = [] := rfl

@[simp] theorem calls_group (body : List Node) (closed : Bool) :
    calls (.group body closed) = callsAll body := by
  simp [calls, walk, List.filterMap_cons, call?, callsAll]

@[simp] theorem calls_call (name : Text) (args : List (List Node)) (closed : Bool) :
    calls (.call name args closed) = ⟨name, args.map surfaces⟩ :: args.flatMap callsAll := by
  have inside : (walkArgs args).filterMap call? = args.flatMap callsAll := by
    induction args with
    | nil => rfl
    | cons arg args ih => simp [walkArgs, callsAll, ih]
  simp [calls, walk, call?, inside]

theorem mem_callsAll {c : Call} {ns : List Node} : c ∈ callsAll ns ↔
    ∃ name args closed, .call name args closed ∈ walkAll ns ∧
      c = ⟨name, args.map surfaces⟩ := by
  rw [callsAll, List.mem_filterMap]
  constructor
  · rintro ⟨n, inside, isCall⟩
    cases n with
    | call name args closed =>
      cases isCall
      exact ⟨name, args, closed, inside, rfl⟩
    | _ => cases isCall
  · rintro ⟨name, args, closed, inside, rfl⟩
    exact ⟨_, inside, rfl⟩

/-- White space holds no calls. -/
theorem callsAll_solid (ns : List Node) : callsAll (solid ns) = callsAll ns := by
  induction ns with
  | nil => rfl
  | cons n ns ih =>
    cases space : n.isSpace with
    | false => simpa [solid, space] using ih
    | true =>
      cases n with
      | leaf t => simpa [solid, space] using ih
      | _ => cases space

theorem callsAll_of_range? {ns : List Node} {a b : Ref} (range : range? ns = some (a, b)) :
    callsAll ns = [] := by
  rw [← callsAll_solid, solid_of_range? range]
  rfl

/-! ## Reading back -/

theorem surface_settle (n : Node) : n.settle.surface = n.surface := by
  cases n with
  | leaf t => simp [settle, surface, Token.settle_settle]
  | _ => rfl

theorem surfaces_settleAll (ns : List Node) : surfaces (settleAll ns) = surfaces ns := by
  induction ns with
  | nil => rfl
  | cons n ns ih => simp [settleAll, surface_settle, ih]

mutual

theorem calls_settle : ∀ n : Node, n.settle.calls = n.calls
  | .leaf _ | .ref _ | .range _ _ => rfl
  | .group body _ => by simp [settle, callsAll_settleAll body]
  | .call _ args _ => by
    obtain ⟨seen, inside⟩ := calls_settleArgs args
    simp [settle, seen, inside]

/-- A tree has the calls of the tree as which it is read back. -/
theorem callsAll_settleAll : ∀ ns : List Node, callsAll (settleAll ns) = callsAll ns
  | [] => rfl
  | n :: ns => by simp [settleAll, calls_settle n, callsAll_settleAll ns]

theorem calls_settleArgs : ∀ args : List (List Node),
    (settleArgs args).map surfaces = args.map surfaces ∧
      (settleArgs args).flatMap callsAll = args.flatMap callsAll
  | [] => ⟨rfl, rfl⟩
  | arg :: args => by
    obtain ⟨seen, inside⟩ := calls_settleArgs args
    simp [settleArgs, surfaces_settleAll, callsAll_settleAll arg, seen, inside]

end

end Node
end CellGraph
