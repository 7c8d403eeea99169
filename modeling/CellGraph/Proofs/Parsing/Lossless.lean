import CellGraph.Proofs.Expr.Tree
import CellGraph.Proofs.Lexing.Next
import CellGraph.Proofs.Parsing.Flat

/-!
# Parsing is lossless

The tokens of a formula make it up without gap, the parser keeps all of them, and the two places
at which it relies on the tokens hold for every formula: a parenthesis stands behind the name of
a function, and the text of a reference is a reference by itself. What holds of all tokens of
a formula carries over to the nodes of its tree by `forall_parse`.
-/

namespace CellGraph

namespace Token

/-- Every name of a function has an opening parenthesis behind it. -/
def Opens (ts : List Token) : Prop :=
  ∀ before name behind, ts = before ++ .func name :: behind → behind.head? = some .lparen

theorem Opens.tail {t : Token} {ts : List Token} (opens : Opens (t :: ts)) : Opens ts := by
  rintro before name behind rfl
  exact opens (t :: before) name behind rfl

theorem opens_tokens (formula : Text) : Opens (tokens formula) := by
  fun_induction tokens formula with
  | case1 =>
    intro before name behind same
    simp at same
  | case2 c t ih =>
    intro before name behind same
    cases before with
    | nil =>
      simp only [List.nil_append, List.cons.injEq] at same
      obtain ⟨isFunc, rfl⟩ := same
      exact head_of_next_func isFunc
    | cons first before =>
      simp only [List.cons_append, List.cons.injEq] at same
      exact ih before name behind same.2

/-- Every reference of a formula has the shape of one. -/
theorem formed_of_mem_tokens {formula : Text} {r : Ref} (member : .ref r ∈ tokens formula) :
    r.Formed :=
  whole_of_mem_tokens member rfl (by rintro _ ⟨⟩)

theorem text_ne_nil_of_mem_tokens {formula : Text} {t : Token} (member : t ∈ tokens formula) :
    t.text ≠ [] := by
  fun_induction tokens formula with
  | case1 => simp at member
  | case2 c u ih =>
    rcases List.mem_cons.1 member with rfl | later
    · exact (text_next c u).2
    · exact ih later

/-- Tokens that become leaves: all but those for which the tree has nodes of their own. -/
def isLeaf : Token → Bool
  | .ref _ | .func _ | .lparen => false
  | _ => true

end Token

namespace Node

/-- Whether all leaves of a node are tokens for which there are no other nodes. -/
def Sorted (n : Node) : Prop := ∀ t, .leaf t ∈ walk n → t.isLeaf

end Node

namespace Parser

open Node (flatAll mem_walkAll mem_walkArgs)

/-- A property of tokens that the parser turns into a property of nodes. -/
structure Carries (Q : Token → Prop) (P : Node → Prop) : Prop where
  leaf : ∀ {t}, Q t → t.isLeaf → P (.leaf t)
  ref : ∀ {r}, Q (.ref r) → P (.ref r)
  range : ∀ {a b}, Q (.ref a) → Q (.ref b) → P (.range a b)
  group : ∀ {body closed}, (∀ n ∈ body, P n) → P (.group body closed)
  call : ∀ {name args closed}, Q (.func name) → (∀ arg ∈ args, ∀ n ∈ arg, P n) →
    P (.call name args closed)

/-- What an open bracket holds so far. -/
def Frame.Holds (Q : Token → Prop) (P : Node → Prop) : Frame → Prop
  | .group before => ∀ n ∈ before, P n
  | .call before name args =>
    (∀ n ∈ before, P n) ∧ Q (.func name) ∧ ∀ arg ∈ args, ∀ n ∈ arg, P n

variable {Q : Token → Prop} {P : Node → Prop}

theorem Carries.finish (carries : Carries Q P) {frame : Frame} (held : frame.Holds Q P)
    {now : List Node} (read : ∀ n ∈ now, P n) (closed : Bool) :
    ∀ n ∈ frame.finish closed now, P n := by
  intro n member
  cases frame with
  | group before =>
    rcases List.mem_cons.1 member with rfl | inside
    · exact carries.group fun m inBody => read m (List.mem_reverse.1 inBody)
    · exact held n inside
  | call before name args =>
    obtain ⟨front, named, done⟩ := held
    rcases List.mem_cons.1 member with rfl | inside
    · refine carries.call named ?_
      intro arg inArgs m inArg
      rcases List.mem_cons.1 (List.mem_reverse.1 inArgs) with rfl | earlier
      · exact read m (List.mem_reverse.1 inArg)
      · exact done arg earlier m inArg
    · exact front n inside

theorem Carries.finishAll (carries : Carries Q P) {frames : List Frame}
    (held : ∀ frame ∈ frames, frame.Holds Q P) {now : List Node} (read : ∀ n ∈ now, P n) :
    ∀ n ∈ finishAll frames now, P n := by
  induction frames generalizing now with
  | nil =>
    intro n member
    exact read n (List.mem_reverse.1 member)
  | cons frame frames ih =>
    exact ih (fun f member => held f (by simp [member]))
      (carries.finish (held frame (by simp)) read false)

/-- One step of the parser keeps the property, so the whole reading does. -/
theorem forall_run (carries : Carries Q P) {ts : List Token} (opens : Token.Opens ts)
    (all : ∀ t ∈ ts, Q t) {frames : List Frame} (held : ∀ frame ∈ frames, frame.Holds Q P)
    {now : List Node} (read : ∀ n ∈ now, P n) : ∀ n ∈ run ts frames now, P n := by
  fun_induction run ts frames now with
  | case1 frames now => exact carries.finishAll held read
  | case2 a b ts frames now ih =>
    refine ih opens.tail.tail.tail (fun t member => all t (by simp [member])) held ?_
    rintro n (_ | ⟨_, inside⟩)
    · exact carries.range (all _ (by simp)) (all _ (by simp))
    · exact read n inside
  | case3 r ts frames now _ ih =>
    refine ih opens.tail (fun t member => all t (by simp [member])) held ?_
    rintro n (_ | ⟨_, inside⟩)
    · exact carries.ref (all _ (by simp))
    · exact read n inside
  | case4 name ts frames now ih =>
    refine ih opens.tail.tail (fun t member => all t (by simp [member])) ?_ (by simp)
    rintro frame (_ | ⟨_, outer⟩)
    · exact ⟨read, all _ (by simp), by simp⟩
    · exact held frame outer
  | case5 ts frames now ih =>
    refine ih opens.tail (fun t member => all t (by simp [member])) ?_ (by simp)
    rintro frame (_ | ⟨_, outer⟩)
    · exact read
    · exact held frame outer
  | case6 ts frame frames now ih =>
    refine ih opens.tail (fun t member => all t (by simp [member]))
      (fun f outer => held f (by simp [outer])) ?_
    exact carries.finish (held frame (by simp)) read true
  | case7 ts before name args frames now ih =>
    refine ih opens.tail (fun t member => all t (by simp [member])) ?_ (by simp)
    obtain ⟨front, named, done⟩ := held (.call before name args) (by simp)
    rintro frame (_ | ⟨_, outer⟩)
    · refine ⟨front, named, ?_⟩
      rintro arg (_ | ⟨_, earlier⟩)
      · exact fun n inArg => read n (List.mem_reverse.1 inArg)
      · exact done arg earlier
    · exact held frame (List.mem_cons_of_mem _ outer)
  | case8 t ts frames now noRange noRef noFunc noGroup _ _ ih =>
    refine ih opens.tail (fun u member => all u (by simp [member])) held ?_
    rintro n (_ | ⟨_, inside⟩)
    · refine carries.leaf (all t (by simp)) ?_
      cases t with
      | ref r => exact absurd rfl (noRef r)
      | func name =>
        obtain ⟨us, rfl⟩ := List.head?_eq_some_iff.1 (opens [] name ts rfl)
        exact absurd rfl (noFunc name us rfl)
      | lparen => exact absurd rfl noGroup
      | _ => rfl
    · exact read n inside

/-- What all tokens of a formula have, the nodes of its tree have. -/
theorem forall_parse (carries : Carries Q P) {formula : Text}
    (all : ∀ t ∈ Token.tokens formula, Q t) : ∀ n ∈ parse formula, P n :=
  forall_run carries (Token.opens_tokens formula) all (by simp) (by simp)

/-! ## The result -/

theorem carries_sorted : Carries (fun _ => True) Node.Sorted where
  leaf := by
    intro t _ isLeaf u member
    simp only [Node.walk, List.mem_singleton, Node.leaf.injEq] at member
    rwa [member]
  ref := by
    intro r _ t member
    simp [Node.walk] at member
  range := by
    intro a b _ _ t member
    simp [Node.walk] at member
  group := by
    intro body closed inside t member
    simp only [Node.walk, List.mem_cons, reduceCtorEq, false_or] at member
    obtain ⟨n, inBody, within⟩ := mem_walkAll.1 member
    exact inside n inBody t within
  call := by
    intro name args closed _ inside t member
    simp only [Node.walk, List.mem_cons, reduceCtorEq, false_or] at member
    obtain ⟨arg, inArgs, n, inArg, within⟩ := mem_walkArgs.1 member
    exact inside arg inArgs n inArg t within

/-- Parsing loses nothing. Every formula is the text of its tree and of its tokens, which are not
empty and are those of the tree in their order. Behind the name of a function stands its opening
parenthesis, and every reference is read again from its own text; so no such token, and no opening
parenthesis, is left over as a leaf. -/
theorem parse_lossless (formula : Text) :
    Node.textAll (parse formula) = formula ∧
    Token.texts (Token.tokens formula) = formula ∧
    (∀ t ∈ Token.tokens formula, t.text ≠ []) ∧
    flatAll (parse formula) = Token.tokens formula ∧
    Token.Opens (Token.tokens formula) ∧
    (∀ r, .ref r ∈ Token.tokens formula → Ref.scan? r.text = some (r, [])) ∧
    ∀ t, .leaf t ∈ Node.walkAll (parse formula) → t.isLeaf := by
  refine ⟨textAll_parse formula, Token.texts_tokens formula,
    fun t member => Token.text_ne_nil_of_mem_tokens member, flatAll_parse formula,
    Token.opens_tokens formula, ?_, ?_⟩
  · intro r member
    have read : Ref.scan? (r.text ++ []) = some (r, []) :=
      Ref.scan?_text (Token.formed_of_mem_tokens member) rfl
    rwa [List.append_nil] at read
  · intro t member
    obtain ⟨n, inTree, within⟩ := mem_walkAll.1 member
    exact forall_parse carries_sorted (fun _ _ => trivial) n inTree t within

end Parser
end CellGraph
