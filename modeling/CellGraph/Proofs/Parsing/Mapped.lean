import CellGraph.Proofs.Expr.Tree
import CellGraph.Proofs.Lexing.Sealed
import CellGraph.Proofs.Lexing.Unmarked
import CellGraph.Proofs.Parsing.Flat

/-!
# Trees with other literals and references

The parser looks into no literal and at no reference: trees whose tokens differ in their literals and
references alone differ in these alone (`ofTokens_map`). So the tree of a formula without dollar
signs is that of the formula, with references written without them (`parse_without`). If the tokens
of a tree are sealed, its text is read as the same tree with any other literals
(`parse_textAll_literals`).
-/

namespace CellGraph

open Token (Change)

namespace Node

mutual

/-- A node with other literals and references. -/
def map (c : Change) : Node → Node
  | .leaf t => .leaf (t.map c)
  | .ref r => .ref (c.ref r)
  | .range a b => .range (c.ref a) (c.ref b)
  | .group body closed => .group (mapAll c body) closed
  | .call name args closed => .call name (mapArgs c args) closed

/-- Nodes with other literals and references. -/
def mapAll (c : Change) : List Node → List Node
  | [] => []
  | n :: ns => map c n :: mapAll c ns

/-- Arguments with other literals and references. -/
def mapArgs (c : Change) : List (List Node) → List (List Node)
  | [] => []
  | arg :: args => mapAll c arg :: mapArgs c args

end

variable {c d : Change}

theorem mapAll_eq_map (ns : List Node) : mapAll c ns = ns.map (map c) := by
  induction ns with
  | nil => rfl
  | cons n ns ih => simp [mapAll, ih]

theorem mapArgs_eq_map (args : List (List Node)) : mapArgs c args = args.map (mapAll c) := by
  induction args with
  | nil => rfl
  | cons arg args ih => simp [mapArgs, ih]

theorem mapAll_append (ms ns : List Node) : mapAll c (ms ++ ns) = mapAll c ms ++ mapAll c ns := by
  simp [mapAll_eq_map]

theorem mapAll_reverse (ns : List Node) : mapAll c ns.reverse = (mapAll c ns).reverse := by
  simp [mapAll_eq_map]

mutual

/-- Two changes one after another. -/
theorem map_map : ∀ n : Node, map d (map c n) = map (d.comp c) n
  | .leaf t => congrArg leaf (Token.map_map t)
  | .ref _ | .range _ _ => rfl
  | .group body closed => by simp [map, mapAll_mapAll body]
  | .call name args closed => by simp [map, mapArgs_mapArgs args]

theorem mapAll_mapAll : ∀ ns : List Node, mapAll d (mapAll c ns) = mapAll (d.comp c) ns
  | [] => rfl
  | n :: ns => by simp [mapAll, map_map n, mapAll_mapAll ns]

theorem mapArgs_mapArgs : ∀ args : List (List Node),
    mapArgs d (mapArgs c args) = mapArgs (d.comp c) args
  | [] => rfl
  | arg :: args => by simp [mapArgs, mapAll_mapAll arg, mapArgs_mapArgs args]

end

/-! ## Tokens -/

theorem map_closingToken (closed : Bool) :
    (closingToken closed).map (Token.map c) = closingToken closed := by
  cases closed <;> rfl

mutual

/-- The tokens of a node with other literals and references. -/
theorem flat_map : ∀ n : Node, flat (map c n) = (flat n).map (Token.map c)
  | .leaf _ | .ref _ | .range _ _ => rfl
  | .group body closed => by simp [map, flat, flatAll_mapAll body, map_closingToken, Token.map]
  | .call name args closed => by
    simp [map, flat, flatArgs_mapArgs args, map_closingToken, Token.map]

theorem flatAll_mapAll : ∀ ns : List Node, flatAll (mapAll c ns) = (flatAll ns).map (Token.map c)
  | [] => rfl
  | n :: ns => by simp [mapAll, flatAll, flat_map n, flatAll_mapAll ns]

theorem flatArgs_mapArgs : ∀ args : List (List Node),
    flatArgs (mapArgs c args) = (flatArgs args).map (Token.map c)
  | [] => rfl
  | [arg] => by simp [mapArgs, flatArgs, flatAll_mapAll arg]
  | arg :: next :: args => by
    have rest := flatArgs_mapArgs (next :: args)
    simp only [mapArgs] at rest
    simp [mapArgs, flatArgs, flatAll_mapAll arg, rest, Token.map]

end

/-! ## Arguments -/

@[simp] theorem isSpace_map (n : Node) : (map c n).isSpace = n.isSpace := by
  cases n with
  | leaf t => cases t <;> rfl
  | _ => rfl

theorem solid_mapAll (ns : List Node) : solid (mapAll c ns) = mapAll c (solid ns) := by
  simp [solid, mapAll_eq_map, List.filter_map, Function.comp_def]

theorem sole?_mapAll (ns : List Node) : sole? (mapAll c ns) = (sole? ns).map (map c) := by
  unfold sole?
  rw [solid_mapAll]
  match solid ns with
  | [] | [_] | _ :: _ :: _ => rfl

theorem range?_literals {f : Text → Text} (ns : List Node) :
    range? (mapAll (.literals f) ns) = range? ns := by
  unfold range?
  rw [sole?_mapAll]
  cases sole? ns with
  | none => rfl
  | some n => cases n <;> rfl

theorem arguments_mapArgs (args : List (List Node)) :
    arguments (mapArgs c args) = mapArgs c (arguments args) := by
  match args with
  | [] | _ :: _ :: _ => rfl
  | [arg] =>
    have blank : solid (mapAll c arg) = [] ↔ solid arg = [] := by
      rw [solid_mapAll, mapAll_eq_map, List.map_eq_nil_iff]
    simp only [mapArgs, arguments, blank]
    split <;> rfl

mutual

theorem walk_map : ∀ n : Node, walk (map c n) = mapAll c (walk n)
  | .leaf _ | .ref _ | .range _ _ => rfl
  | .group body closed => by simp [map, mapAll, walk, walkAll_mapAll body]
  | .call name args closed => by simp [map, mapAll, walk, walkArgs_mapArgs args]

theorem walkAll_mapAll : ∀ ns : List Node, walkAll (mapAll c ns) = mapAll c (walkAll ns)
  | [] => rfl
  | n :: ns => by simp [mapAll, walkAll, mapAll_append, walk_map n, walkAll_mapAll ns]

theorem walkArgs_mapArgs : ∀ args : List (List Node),
    walkArgs (mapArgs c args) = mapAll c (walkArgs args)
  | [] => rfl
  | arg :: args => by
    simp [mapArgs, walkArgs, mapAll_append, walkAll_mapAll arg, walkArgs_mapArgs args]

end

end Node

namespace Parser

open Node (map mapAll mapArgs flatAll textAll)

/-! ## The parser looks into no literal and at no reference -/

variable {c : Change}

/-- An open bracket with other literals and references. -/
def Frame.map (c : Change) : Frame → Frame
  | .group before => .group (mapAll c before)
  | .call before name args => .call (mapAll c before) name (mapArgs c args)

theorem finish_map (closed : Bool) (now : List Node) (frame : Frame) :
    (frame.map c).finish closed (mapAll c now) = mapAll c (frame.finish closed now) := by
  cases frame with
  | group before => simp [Frame.map, Frame.finish, mapAll, Node.map, Node.mapAll_reverse]
  | call before name args =>
    simp [Frame.map, Frame.finish, mapAll, Node.map, Node.mapAll_reverse, Node.mapArgs_eq_map]

theorem finishAll_map (frames : List Frame) (now : List Node) :
    finishAll (frames.map (Frame.map c)) (mapAll c now) = mapAll c (finishAll frames now) := by
  induction frames generalizing now with
  | nil => simp [finishAll, Node.mapAll_reverse]
  | cons frame frames ih => rw [List.map_cons, finishAll, finish_map, ih, finishAll]

/-- Each step of the parser is the same with other literals and references. -/
theorem run_map (ts : List Token) (frames : List Frame) (now : List Node) :
    run (ts.map (Token.map c)) (frames.map (Frame.map c)) (mapAll c now) =
      mapAll c (run ts frames now) := by
  fun_induction run ts frames now with
  | case1 frames now => simpa [run] using finishAll_map frames now
  | case2 a b ts frames now ih => simpa [run, Token.map, mapAll, Node.map] using ih
  | case3 r ts frames now noRange ih =>
    rw [List.map_cons, Token.map, run.eq_3, ← ih, mapAll, Node.map]
    intro b us same
    obtain ⟨vs, rfl, rest⟩ := Token.exists_of_map_cons same rfl
    obtain ⟨t, ws, rfl, last, -⟩ := List.map_eq_cons_iff.1 rest
    obtain ⟨b', rfl, -⟩ := Token.exists_of_map last
    exact noRange b' ws rfl
  | case4 name ts frames now ih =>
    simpa [run, Token.map, mapAll, Frame.map, mapArgs] using ih
  | case5 ts frames now ih => simpa [run, Token.map, mapAll, Frame.map] using ih
  | case6 ts frame frames now ih => simpa [run, Token.map, finish_map] using ih
  | case7 ts before name args frames now ih =>
    simpa [run, Token.map, Frame.map, mapAll, mapArgs, Node.mapAll_reverse] using ih
  | case8 t ts frames now _ noRef noFunc noGroup noClose noComma ih =>
    -- every other token is a leaf, as it was
    rw [List.map_cons, run.eq_8, ← ih, mapAll, Node.map]
    · intro a b us same
      obtain ⟨r, rfl, -⟩ := Token.exists_of_map same
      exact absurd rfl (noRef r)
    · intro r same
      obtain ⟨r', rfl, -⟩ := Token.exists_of_map same
      exact noRef r' rfl
    · intro name us same behind
      obtain ⟨vs, rfl, -⟩ := Token.exists_of_map_cons behind rfl
      exact noFunc name vs (Token.eq_of_map same rfl) rfl
    · intro same
      exact noGroup (Token.eq_of_map same rfl)
    · intro frame outer same isClose
      obtain ⟨inner, rest, rfl, -⟩ := List.map_eq_cons_iff.1 same
      exact noClose inner rest rfl (Token.eq_of_map isClose rfl)
    · intro before name args outer same isComma
      obtain ⟨inner, rest, rfl, call, -⟩ := List.map_eq_cons_iff.1 same
      cases inner with
      | group => cases call
      | call before' name' args' =>
        exact noComma before' name' args' rest rfl (Token.eq_of_map isComma rfl)

/-- The tree of tokens with other literals and references. -/
theorem ofTokens_map (ts : List Token) :
    ofTokens (ts.map (Token.map c)) = mapAll c (ofTokens ts) :=
  run_map ts [] []

/-- The tree of a formula without its dollar signs. -/
theorem parse_without {formula : Text} (marked : Token.Marked (Token.tokens formula)) :
    parse (Text.without '$' formula) = mapAll (.refs Ref.unmarked) (parse formula) := by
  rw [parse, Token.tokens_without marked]
  exact ofTokens_map _

/-- The text of a tree with other literals is read as the same tree with other literals. -/
theorem parse_textAll_literals {f : Text → Text} (trades : Token.Trades f) {ns : List Node}
    (isSealed : Token.Sealed (flatAll ns) []) :
    parse (textAll (mapAll (.literals f) ns)) = mapAll (.literals f) (parse (textAll ns)) := by
  rw [parse, parse, ← Node.texts_flatAll, ← Node.texts_flatAll, Node.flatAll_mapAll,
    Token.tokens_map trades isSealed, ofTokens_map]

end Parser
end CellGraph
