import CellGraph.Proofs.Dialect.Copies
import CellGraph.Proofs.Dialect.Dependencies

/-!
# What a step does to the calls of a formula

A change of single nodes says for each call what becomes of it: `next` gives the call that is left
of it, if it is not spelled out, and `reported` the names under which it is reported (`Changes`).
A whole tree is then changed in the same way (`renders_expandAll`): its calls are those that are left
of the calls that it had, apart from logarithms, and what is reported was a call of it. No percent
sign comes to stand behind a number.
-/

namespace CellGraph

open Node (Tight TightAll TightArgs surfaces arguments textAll callsAll call? Copied Keeping)
open Percent (Folded FoldedAll FoldedArgs)

namespace Node

/-! ## Nodes in the places of others -/

/-- The second node looks like the first one, and it is a number only if the first one is. -/
structure Stands (n m : Node) : Prop where
  surface : m.surface = n.surface
  number : Percent.isNumber m → Percent.isNumber n

theorem Stands.refl (n : Node) : Stands n n := ⟨rfl, id⟩

theorem stands_of_isBracket {n m : Node} (first : n.isBracket) (second : m.isBracket) :
    Stands n m := by
  cases n with
  | group | call =>
    cases m with
    | group | call => exact ⟨rfl, fun number => by cases number⟩
    | _ => cases second
  | _ => cases first

theorem isSign_surface (n : Node) : Percent.isSign n.surface = Percent.isSign n := by
  cases n with
  | leaf t => exact Percent.isSign_settle (.leaf t)
  | _ => rfl

theorem Stands.isSign {n m : Node} (stands : Stands n m) :
    Percent.isSign m = Percent.isSign n := by
  rw [← isSign_surface, stands.surface, isSign_surface]

theorem Stands.apart {m m' n n' : Node} (first : Stands m m') (second : Stands n n')
    (apart : Percent.Apart m n) : Percent.Apart m' n' :=
  fun both => apart ⟨first.number both.1, second.isSign ▸ both.2⟩

theorem surfaces_of_stands {ns ms : List Node} (stand : List.Forall₂ Stands ns ms) :
    surfaces ms = surfaces ns := by
  induction stand with
  | nil => rfl
  | cons first _ ih => simp [first.surface, ih]

/-! ## Changed sequences -/

/-- What a sequence is changed to, by what becomes of its calls and what is reported of them. -/
structure Renders (next : Call → Option Call) (reported : Text → Call → Prop) (ns : List Node)
    (e : Expansion) : Prop where
  stand : List.Forall₂ Stands ns e.nodes
  calls : ∀ c : Call, Inline.key c.name ≠ Inline.made →
    (c ∈ callsAll e.nodes ↔ ∃ b ∈ callsAll ns, next b = some c)
  reports : ∀ w, w ∈ e.unresolved ↔ ∃ b ∈ callsAll ns, reported w b
  folded : FoldedAll ns → FoldedAll e.nodes

/-- The same for the arguments of a call. -/
structure RendersArgs (next : Call → Option Call) (reported : Text → Call → Prop)
    (args : List (List Node)) (e : List (List Node) × List Text) : Prop where
  seen : e.1.map surfaces = args.map surfaces
  calls : ∀ c : Call, Inline.key c.name ≠ Inline.made →
    (c ∈ e.1.flatMap callsAll ↔ ∃ b ∈ args.flatMap callsAll, next b = some c)
  reports : ∀ w, w ∈ e.2 ↔ ∃ b ∈ args.flatMap callsAll, reported w b
  folded : FoldedArgs args → FoldedArgs e.1

variable {next : Call → Option Call} {reported : Text → Call → Prop}

theorem renders_nil : Renders next reported [] ⟨[], []⟩ :=
  ⟨.nil, by simp, by simp, id⟩

theorem Renders.cons {n : Node} {ns : List Node} {first rest : Expansion}
    (head : Renders next reported [n] first) (tail : Renders next reported ns rest) :
    Renders next reported (n :: ns)
      ⟨first.nodes ++ rest.nodes, first.unresolved ++ rest.unresolved⟩ where
  stand := List.rel_append head.stand tail.stand
  calls := by
    intro c other
    simp only [callsAll_append, callsAll_cons, List.mem_append, tail.calls c other, or_and_right,
      exists_or]
    rw [head.calls c other]
    simp
  reports := by
    intro w
    simp only [callsAll_cons, List.mem_append, tail.reports, or_and_right, exists_or]
    rw [head.reports]
    simp
  folded := by
    rintro ⟨own, apart, others⟩
    obtain ⟨nodes, unresolved⟩ := first
    obtain ⟨m, _, stands, nothing, rfl⟩ := List.forall₂_cons_left_iff.1 head.stand
    cases nothing
    refine ⟨(head.folded (Percent.foldedAll_single own)).1, fun m' same => ?_, tail.folded others⟩
    obtain ⟨ms, whole⟩ := List.head?_eq_some_iff.1 same
    have stand := tail.stand
    rw [show rest.nodes = m' :: ms from whole] at stand
    obtain ⟨n', _, again, -, rfl⟩ := List.forall₂_cons_right_iff.1 stand
    exact stands.apart again (apart n' rfl)

theorem rendersArgs_nil : RendersArgs next reported [] ([], []) :=
  ⟨rfl, by simp, by simp, id⟩

theorem RendersArgs.cons {arg : List Node} {args : List (List Node)} {first : Expansion}
    {rest : List (List Node) × List Text} (head : Renders next reported arg first)
    (tail : RendersArgs next reported args rest) :
    RendersArgs next reported (arg :: args)
      (first.nodes :: rest.1, first.unresolved ++ rest.2) where
  seen := by simp [surfaces_of_stands head.stand, tail.seen]
  calls := by
    intro c other
    simp only [List.flatMap_cons, List.mem_append, head.calls c other, tail.calls c other,
      or_and_right, exists_or]
  reports := by
    intro w
    simp only [List.flatMap_cons, List.mem_append, head.reports, tail.reports, or_and_right,
      exists_or]
  folded := fun both => ⟨head.folded both.1, tail.folded both.2⟩

theorem Renders.group {body : List Node} {closed : Bool} {inner : Expansion}
    (inside : Renders next reported body inner) :
    Renders next reported [.group body closed]
      ⟨[.group inner.nodes closed], inner.unresolved ++ []⟩ where
  stand := .cons (stands_of_isBracket rfl rfl) .nil
  calls := by simpa using inside.calls
  reports := by simpa using inside.reports
  folded := fun whole => Percent.foldedAll_single (inside.folded whole.1)

/-! ## Changes of single nodes -/

/-- The node that a call is changed to: a bracket that holds what is left of the call and the calls
of the arguments, and no others but logarithms. -/
structure Rendered (left : Option Call) (args : List (List Node)) (m : Node) : Prop where
  bracket : m.isBracket
  calls : ∀ c : Call, Inline.key c.name ≠ Inline.made →
    (c ∈ m.calls ↔ left = some c ∨ c ∈ args.flatMap callsAll)
  folded : FoldedArgs args → Folded m

/-- A change of single nodes that says what becomes of each call, and under which names the call is
reported. -/
structure Changes (f : Node → Expansion) (next : Call → Option Call)
    (reported : Text → Call → Prop) : Prop where
  keeping : Keeping f
  other : ∀ {n}, call? n = none → f n = .keep n
  rendered : ∀ {s name args closed m}, Tight s (.call name args closed) →
    (f (.call name args closed)).nodes = [m] → Rendered (next ⟨name, args.map surfaces⟩) args m
  reports : ∀ name args closed w, w ∈ (f (.call name args closed)).unresolved ↔
    reported w ⟨name, args.map surfaces⟩

/-- A node without calls stays as it is. -/
theorem Changes.renders {f : Node → Expansion} (changes : Changes f next reported) {n : Node}
    (plain : n.calls = []) : Renders next reported [n] (f n) := by
  have noCall : call? n = none := by
    cases n with
    | call name args closed => simp at plain
    | _ => rfl
  rw [changes.other noCall]
  exact ⟨.cons (.refl n) .nil, by simp [Expansion.keep, plain], by simp [Expansion.keep, plain], id⟩

theorem Renders.call {f : Node → Expansion} (changes : Changes f next reported) {s : Site}
    {name : Text} {args : List (List Node)} {closed : Bool} {inner : List (List Node) × List Text}
    (inside : RendersArgs next reported args inner) (tight : Tight s (.call name inner.1 closed)) :
    Renders next reported [.call name args closed]
      ⟨(f (.call name inner.1 closed)).nodes,
        inner.2 ++ (f (.call name inner.1 closed)).unresolved⟩ := by
  obtain ⟨m, found, -⟩ := changes.keeping tight
  have outer := changes.rendered tight found
  rw [inside.seen] at outer
  rw [found]
  refine ⟨.cons (stands_of_isBracket rfl outer.bracket) .nil, fun c other => ?_, fun w => ?_,
    fun whole => ?_⟩
  · have left := inside.calls c other
    simp [outer.calls c other, left]
  · have first := inside.reports w
    simp [changes.reports, inside.seen, first, or_comm]
  · exact Percent.foldedAll_single (outer.folded (inside.folded whole.1))

/-! ## Whole trees -/

mutual

theorem renders_expand {f : Node → Expansion} (changes : Changes f next reported) :
    ∀ {n : Node} {s : Site}, Tight s n → Renders next reported [n] (expand f n)
  | .leaf _, _, _ | .ref _, _, _ | .range _ _, _, _ => changes.renders rfl
  | .group body closed, _, tight => by
    have inside := renders_expandAll changes tight.2
    rw [expand, changes.other rfl]
    exact inside.group
  | .call name args closed, _, tight => by
    have inside := renders_expandArgs changes tight.2.2.2
    have changed := Keeps.call (keeps_expandArgs changes.keeping tight.2.2.2) tight
    exact .call changes inside changed.tight

/-- A tree is changed as its calls are. -/
theorem renders_expandAll {f : Node → Expansion} (changes : Changes f next reported) :
    ∀ {ns : List Node} {s : Site}, TightAll s ns → Renders next reported ns (expandAll f ns)
  | [], _, _ => renders_nil
  | _ :: _, _, ⟨tight, _, _, others⟩ =>
    (renders_expand changes tight).cons (renders_expandAll changes others)

theorem renders_expandArgs {f : Node → Expansion} (changes : Changes f next reported) :
    ∀ {args : List (List Node)}, TightArgs args →
      RendersArgs next reported args (expandArgs f args)
  | [], _ => rendersArgs_nil
  | _ :: _, ⟨tight, others⟩ =>
    .cons (renders_expandAll changes tight) (renders_expandArgs changes others)

end

mutual

theorem nodes_expand {f : Node → Expansion} : ∀ {n : Node}, (∀ m ∈ walk n, (f m).nodes = [m]) →
    (expand f n).nodes = [n]
  | .leaf _, kept | .ref _, kept | .range _ _, kept => kept _ (by simp [walk])
  | .group body closed, kept => by
    rw [walk, List.forall_mem_cons] at kept
    rw [expand, nodes_expandAll kept.2]
    exact kept.1
  | .call name args closed, kept => by
    rw [walk, List.forall_mem_cons] at kept
    rw [expand, nodes_expandArgs kept.2]
    exact kept.1

/-- A change that keeps every node of a tree keeps the tree. -/
theorem nodes_expandAll {f : Node → Expansion} : ∀ {ns : List Node},
    (∀ m ∈ walkAll ns, (f m).nodes = [m]) → (expandAll f ns).nodes = ns
  | [], _ => rfl
  | n :: ns, kept => by
    rw [walkAll, List.forall_mem_append] at kept
    simp only [expandAll, nodes_expand kept.1, nodes_expandAll kept.2]
    rfl

theorem nodes_expandArgs {f : Node → Expansion} : ∀ {args : List (List Node)},
    (∀ m ∈ walkArgs args, (f m).nodes = [m]) → (expandArgs f args).1 = args
  | [], _ => rfl
  | arg :: args, kept => by
    rw [walkArgs, List.forall_mem_append] at kept
    simp only [expandArgs, nodes_expandAll kept.1, nodes_expandArgs kept.2]

end

mutual

theorem expand_of_keep {f : Node → Expansion} : ∀ {n : Node}, (∀ m ∈ walk n, f m = .keep m) →
    expand f n = .keep n
  | .leaf _, kept | .ref _, kept | .range _ _, kept => kept _ (by simp [walk])
  | .group body closed, kept => by
    rw [walk, List.forall_mem_cons] at kept
    simp only [expand, expandAll_of_keep kept.2, Expansion.of, kept.1]
    rfl
  | .call name args closed, kept => by
    rw [walk, List.forall_mem_cons] at kept
    simp only [expand, expandArgs_of_keep kept.2, kept.1]
    rfl

theorem expandAll_of_keep {f : Node → Expansion} : ∀ {ns : List Node},
    (∀ m ∈ walkAll ns, f m = .keep m) → expandAll f ns = .of ns
  | [], _ => rfl
  | n :: ns, kept => by
    rw [walkAll, List.forall_mem_append] at kept
    simp only [expandAll, expand_of_keep kept.1, expandAll_of_keep kept.2]
    rfl

/-- A change that keeps every node of arguments keeps the arguments, and reports nothing. -/
theorem expandArgs_of_keep {f : Node → Expansion} : ∀ {args : List (List Node)},
    (∀ m ∈ walkArgs args, f m = .keep m) → expandArgs f args = (args, [])
  | [], _ => rfl
  | arg :: args, kept => by
    rw [walkArgs, List.forall_mem_append] at kept
    simp only [expandArgs, expandAll_of_keep kept.1, expandArgs_of_keep kept.2]
    rfl

end

end Node

/-! ## Calls that are spelled out -/

/-- What is left of a call: nothing if it is spelled out. -/
def Call.unless (spelled : Call → Bool) (c : Call) : Option Call :=
  if spelled c then none else some c

theorem Call.exists_unless {spelled : Call → Bool} {cs : List Call} {c : Call} :
    (∃ b ∈ cs, Call.unless spelled b = some c) ↔ c ∈ cs ∧ spelled c = false := by
  simp only [Call.unless]
  constructor
  · rintro ⟨b, member, left⟩
    split at left
    · cases left
    · next stays =>
      cases left
      exact ⟨member, by simpa using stays⟩
  · rintro ⟨member, stays⟩
    exact ⟨c, member, by simp [stays]⟩

namespace Node

theorem rendered_self (name : Text) (args : List (List Node)) (closed : Bool) :
    Rendered (some ⟨name, args.map surfaces⟩) args (.call name args closed) where
  bracket := rfl
  calls := by simp [eq_comm]
  folded := id

/-- What a call is spelled out as is read back as a bracket with the calls of the arguments. -/
theorem rendered_copy {args : List (List Node)} {body : List Node} {m : Node}
    (copied : Copied args body) (read : Parser.parse (textAll [.group body true]) = [m]) :
    Rendered none args m := by
  have bracket : Tight .top (.group body true) := tight_group copied.tight
  rw [Parser.parse_textAll_of_tight (tightAll_single bracket)] at read
  cases read
  refine ⟨rfl, ?_, fun folded => (copied.folded folded).settleAll⟩
  simpa [settle, callsAll_settleAll] using copied.calls

end Node

namespace Inline

/-- A speller that decides by surfaces, and whose brackets copy the calls of the arguments. -/
structure Speller.Faithful (spell : Speller) : Prop where
  conserves : spell.Conserves
  sees : spell.SeesSurfaces
  copied : ∀ {args t}, TightArgs args → spell args = some t →
    ∃ body, t = textAll [.group body true] ∧ Copied args body

theorem faithful_sumproduct : Speller.Faithful sumproduct where
  conserves := conserves_sumproduct
  sees := sumproduct_seesSurfaces
  copied := by
    intro args t tight found
    obtain ⟨first, second, a, b, c, d, rfl, left, right, fits, -, rfl⟩ :=
      Node.sumproduct_eq_some found
    exact ⟨_, rfl, Node.copied_products tight left right fits⟩

theorem faithful_average : Speller.Faithful average where
  conserves := conserves_average
  sees := average_seesSurfaces
  copied := by
    intro args t tight found
    obtain ⟨-, rfl⟩ := Node.average_eq_some found
    exact ⟨_, rfl, Node.copied_mean tight⟩

theorem faithful_ln : Speller.Faithful ln where
  conserves := conserves_ln
  sees := ln_seesSurfaces
  copied := by
    intro args t tight found
    obtain ⟨arg, rfl, rfl⟩ := Node.ln_eq_some found
    exact ⟨_, rfl, Node.copied_naturalLogarithm tight⟩

theorem faithful_pv : Speller.Faithful pv where
  conserves := conserves_pv
  sees := pv_seesSurfaces
  copied := by
    intro args t tight found
    obtain ⟨rate, nper, pmt, given, rfl⟩ := pv_eq_some found
    rw [← Node.textAll_presentValue]
    rcases given with rfl | ⟨future, due, rfl, noFuture, isOne⟩
    · exact ⟨_, rfl, Node.copied_presentValue tight⟩
    · obtain ⟨rateTight, nperTight, pmtTight, -⟩ := tight
      have body := Node.copied_presentValue ⟨rateTight, nperTight, pmtTight, trivial⟩
      -- what is ignored holds no calls: it is blank or written as a one
      have futureCalls : callsAll future = [] := by
        rw [← Node.callsAll_solid, noFuture, Node.callsAll_nil]
      have dueCalls := Node.callsAll_of_plain (Node.plain_of_trim isOne)
      refine ⟨_, rfl, body.tight, fun c other => ?_, fun folded => ?_⟩
      · simp [body.calls c other, futureCalls, dueCalls]
      · exact body.folded ⟨folded.1, folded.2.1, folded.2.2.1, trivial⟩

/-- Whether a call is one of the named function that is spelled out. -/
def spells (name : Text) (spell : Speller) (c : Call) : Bool :=
  key c.name = name ∧ (spell (arguments c.args)).isSome

theorem isSome_surfaces {spell : Speller} (sees : spell.SeesSurfaces) (args : List (List Node)) :
    (spell (arguments (args.map surfaces))).isSome = (spell (arguments args)).isSome := by
  rw [Node.arguments_surfaces, sees]

theorem changes_expandCall {name : Text} {spell : Speller} (faithful : spell.Faithful) :
    Node.Changes (expandCall name spell) (Call.unless (spells name spell))
      fun w c => w = name ∧ key c.name = name ∧ spell (arguments c.args) = none where
  keeping := keeping_expandCall faithful.conserves
  other := by
    intro n noCall
    cases n with
    | call => cases noCall
    | _ => rfl
  rendered := by
    intro s written args closed m tight found
    have seen := isSome_surfaces faithful.sees args
    by_cases same : key written = name
    · cases spelled : spell (arguments args) with
      | none =>
        simp only [expandCall, same, if_true, spelled] at found
        cases found
        simpa [Call.unless, spells, seen, spelled] using Node.rendered_self written args closed
      | some t =>
        simp only [expandCall, same, if_true, spelled] at found
        have left : Call.unless (spells name spell) ⟨written, args.map surfaces⟩ = none := by
          simp [Call.unless, spells, seen, spelled, same]
        rw [left]
        rcases Node.arguments_cases args with whole | empty
        · rw [whole] at spelled
          obtain ⟨body, rfl, copied⟩ := faithful.copied tight.2.2.2 spelled
          exact Node.rendered_copy copied found
        · rw [empty, faithful.conserves.some_arg] at spelled
          cases spelled
    · simp only [expandCall, same, if_false] at found
      cases found
      simpa [Call.unless, spells, same] using Node.rendered_self written args closed
  reports := by
    intro written args closed w
    have seen := isSome_surfaces faithful.sees args
    by_cases same : key written = name
    · cases spelled : spell (arguments args) with
      | none =>
        rw [spelled] at seen
        simpa [expandCall, same, spelled, Expansion.refuse] using fun _ => seen
      | some t =>
        rw [spelled] at seen
        have some_text : spell (arguments (args.map surfaces)) ≠ none := by
          rintro none_text
          simp [none_text] at seen
        simp [expandCall, same, spelled, Expansion.of, some_text]
    · simp [expandCall, same, Expansion.keep]

end Inline

/-! ## Sums -/

namespace Sum

/-- What is left of a sum that gets the dialect's own name. -/
def renamed (c : Call) : Call := if Inline.key c.name = name then ⟨"sum", c.args⟩ else c

theorem changes_rename : Node.Changes rename (fun c => some (renamed c)) fun _ _ => False where
  keeping := keeping_rename
  other := by
    intro n noCall
    cases n with
    | call => cases noCall
    | _ => rfl
  rendered := by
    intro s written args closed m tight found
    by_cases same : Inline.key written = name
    · simp only [rename, same, if_true] at found
      cases found
      simpa [renamed, same] using Node.rendered_self "sum" args closed
    · simp only [rename, same, if_false] at found
      cases found
      simpa [renamed, same] using Node.rendered_self written args closed
  reports := by
    intro written args closed w
    by_cases same : Inline.key written = name
    · simp [rename, same, Expansion.of]
    · simp [rename, same, Expansion.keep]

/-- Whether a call is a sum over a column. -/
def isColumn (c : Call) : Bool :=
  Inline.key c.name = name ∧ (columnRefs? (arguments c.args)).isSome

theorem changes_spellOut : Node.Changes spellOut (Call.unless isColumn) fun _ _ => False where
  keeping := keeping_spellOut
  other := by
    intro n noCall
    cases n with
    | call => cases noCall
    | _ => rfl
  rendered := by
    intro s written args closed m tight found
    have seen := columnRefs?_surfaces (arguments args)
    rw [← Node.arguments_surfaces] at seen
    by_cases same : Inline.key written = name
    · cases column : columnRefs? (arguments args) with
      | none =>
        simp only [spellOut, summands?, same, if_true, Option.bind_some, column] at found
        cases found
        simpa [Call.unless, isColumn, seen, column] using Node.rendered_self written args closed
      | some refs =>
        simp only [spellOut, summands?, same, if_true, Option.bind_some, column] at found
        have left : Call.unless isColumn ⟨written, args.map surfaces⟩ = none := by
          simp [Call.unless, isColumn, seen, column, same]
        rw [left]
        rcases Node.arguments_cases args with whole | empty
        · rw [whole] at column
          obtain ⟨arg, a, b, rfl, alone, rfl, -⟩ := columnRefs?_eq_some column
          have copied := Node.copied_column tight.2.2.2 (Node.range?_of_sole? alone)
          rw [← Node.textAll_column] at found
          exact Node.rendered_copy copied found
        · rw [empty] at column
          cases column
    · simp only [spellOut, summands?, same, if_false, Option.bind_none] at found
      cases found
      simpa [Call.unless, isColumn, same] using Node.rendered_self written args closed
  reports := by
    intro written args closed w
    unfold spellOut
    split
    · simp [Expansion.of]
    · simp [Expansion.keep]

end Sum
end CellGraph
