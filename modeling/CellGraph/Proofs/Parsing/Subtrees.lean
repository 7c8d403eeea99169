import CellGraph.Proofs.Parsing.Grammar

/-!
# Subtrees

What is known of the tree of a formula is known of every node inside it: its tokens stand together
among those of the formula (`exists_suffix_of_mem_parse`), and a closed call has closed arguments,
whatever is open around it (`formedArgs_of_mem_parse`).
-/

namespace CellGraph

namespace Node

mutual

theorem flat_infix_of_mem_walk : ∀ {n m : Node}, m ∈ walk n → flat m <:+: flat n
  | .leaf _, _, inside | .ref _, _, inside | .range _ _, _, inside => by
    obtain rfl := List.mem_singleton.1 inside
    exact List.infix_rfl
  | .group body closed, m, inside => by
    rcases List.mem_cons.1 inside with rfl | within
    · exact List.infix_rfl
    · exact (flat_infix_of_mem_walkAll within).trans
        ⟨[.lparen], closingToken closed, by simp [flat]⟩
  | .call name args closed, m, inside => by
    rcases List.mem_cons.1 inside with rfl | within
    · exact List.infix_rfl
    · exact (flat_infix_of_mem_walkArgs within).trans
        ⟨[.func name, .lparen], closingToken closed, by simp [flat]⟩

/-- The tokens of a node inside a sequence stand together among those of the sequence. -/
theorem flat_infix_of_mem_walkAll : ∀ {ns : List Node} {m : Node}, m ∈ walkAll ns →
    flat m <:+: flatAll ns
  | [], _, inside => by simp [walkAll] at inside
  | n :: ns, m, inside => by
    rw [flatAll]
    rcases List.mem_append.1 inside with first | rest
    · exact List.infix_append_of_infix_left (flat_infix_of_mem_walk first)
    · exact List.infix_append_of_infix_right (flat_infix_of_mem_walkAll rest)

theorem flat_infix_of_mem_walkArgs : ∀ {args : List (List Node)} {m : Node}, m ∈ walkArgs args →
    flat m <:+: flatArgs args
  | [], _, inside => by simp [walkArgs] at inside
  | [arg], m, inside => flat_infix_of_mem_walkAll (by simpa [walkArgs] using inside)
  | arg :: next :: args, m, inside => by
    rw [flatArgs.eq_3 _ _ (by simp)]
    rcases List.mem_append.1 inside with first | rest
    · exact List.infix_append_of_infix_left (flat_infix_of_mem_walkAll first)
    · exact List.infix_append_of_infix_right
        ((flat_infix_of_mem_walkArgs rest).trans (List.suffix_cons _ _).isInfix)

end

mutual

theorem exists_shaped_of_mem_walk : ∀ {n m : Node} {s : Site} {tail : Bool}, Shaped s tail n →
    m ∈ walk n → ∃ s tail, Shaped s tail m
  | .leaf _, _, _, _, shaped, inside | .ref _, _, _, _, shaped, inside
  | .range _ _, _, _, _, shaped, inside => by
    rw [List.mem_singleton.1 inside]
    exact ⟨_, _, shaped⟩
  | .group body closed, m, _, _, shaped, inside => by
    rcases List.mem_cons.1 inside with rfl | within
    · exact ⟨_, _, shaped⟩
    · exact exists_shaped_of_mem_walkAll shaped.2 within
  | .call name args closed, m, _, _, shaped, inside => by
    rcases List.mem_cons.1 inside with rfl | within
    · exact ⟨_, _, shaped⟩
    · exact exists_shaped_of_mem_walkArgs shaped.2.2 within

/-- Every node inside a tree that the parser makes stands where it may. -/
theorem exists_shaped_of_mem_walkAll : ∀ {ns : List Node} {m : Node} {s : Site} {tail : Bool},
    ShapedAll s tail ns → m ∈ walkAll ns → ∃ s tail, Shaped s tail m
  | [], _, _, _, _, inside => by simp [walkAll] at inside
  | _ :: _, _, _, _, ⟨first, _, rest⟩, inside => by
    rcases List.mem_append.1 inside with within | within
    · exact exists_shaped_of_mem_walk first within
    · exact exists_shaped_of_mem_walkAll rest within

theorem exists_shaped_of_mem_walkArgs : ∀ {args : List (List Node)} {m : Node} {tail : Bool},
    ShapedArgs tail args → m ∈ walkArgs args → ∃ s tail, Shaped s tail m
  | [], _, _, _, inside => by simp [walkArgs] at inside
  | _ :: _, _, _, ⟨first, rest⟩, inside => by
    rcases List.mem_append.1 inside with within | within
    · exact exists_shaped_of_mem_walkAll first within
    · exact exists_shaped_of_mem_walkArgs rest within

end

end Node

namespace Parser

open Node (flat walkAll)

variable {formula : Text} {n : Node}

/-- The tokens of a node of a formula, and those behind it, end the tokens of the formula. -/
theorem exists_suffix_of_mem_parse (inside : n ∈ walkAll (parse formula)) :
    ∃ ts, flat n ++ ts <:+ Token.tokens formula := by
  obtain ⟨before, behind, whole⟩ := Node.flat_infix_of_mem_walkAll inside
  rw [flatAll_parse] at whole
  exact ⟨behind, before, by rw [← whole, List.append_assoc]⟩

/-- The ends of a range of a formula are written as references are. -/
theorem formed_of_range_mem_parse {a b : Ref} (inside : .range a b ∈ walkAll (parse formula)) :
    a.Formed ∧ b.Formed := by
  obtain ⟨ts, suffix⟩ := exists_suffix_of_mem_parse inside
  exact ⟨Token.formed_of_mem_tokens (suffix.mem (by simp [flat])),
    Token.formed_of_mem_tokens (suffix.mem (by simp [flat]))⟩

/-- The arguments of a closed call are closed, and there is at least one. -/
theorem formedArgs_of_mem_parse {name : Text} {args : List (List Node)}
    (inside : .call name args true ∈ walkAll (parse formula)) :
    args ≠ [] ∧ Node.FormedArgs args := by
  have shaped := shapedAll_ofTokens (Token.opens_tokens formula)
  obtain ⟨s, tail, -, some_arg, within⟩ := Node.exists_shaped_of_mem_walkAll shaped inside
  exact ⟨some_arg, Node.shapedArgs_iff_formedArgs.1 within⟩

end Parser
end CellGraph
