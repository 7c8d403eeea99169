import CellGraph.Expr.Parser
import CellGraph.Proofs.Lexing.Tokens

/-!
# Trees and their tokens

A tree stands for a sequence of tokens, its `flatAll`. Parsing loses no token
(`flatAll_parse`), so a formula is the text of its tree (`textAll_parse`).
-/

namespace CellGraph

namespace Node

/-! ## The tokens of a tree -/

/-- The closing parenthesis of a bracket, if it is there. -/
def closingToken (closed : Bool) : List Token := if closed then [.rparen] else []

mutual

/-- The tokens of a node. -/
def flat : Node → List Token
  | .leaf t => [t]
  | .ref r => [.ref r]
  | .range a b => [.ref a, .colon, .ref b]
  | .group body closed => .lparen :: flatAll body ++ closingToken closed
  | .call name args closed => .func name :: .lparen :: flatArgs args ++ closingToken closed

/-- The tokens of nodes one after another. -/
def flatAll : List Node → List Token
  | [] => []
  | n :: ns => flat n ++ flatAll ns

/-- The tokens of arguments, with commas between them. -/
def flatArgs : List (List Node) → List Token
  | [] => []
  | [arg] => flatAll arg
  | arg :: args => flatAll arg ++ .comma :: flatArgs args

end

@[simp] theorem flatAll_append (ms ns : List Node) :
    flatAll (ms ++ ns) = flatAll ms ++ flatAll ns := by
  induction ms with
  | nil => rfl
  | cons m ms ih => simp [flatAll, ih]

theorem mem_flatAll {t : Token} {ns : List Node} :
    t ∈ flatAll ns ↔ ∃ n ∈ ns, t ∈ flat n := by
  induction ns with
  | nil => simp [flatAll]
  | cons n ns ih => simp [flatAll, ih]

theorem mem_flatArgs {t : Token} : ∀ {args : List (List Node)}, t ∈ flatArgs args →
    t = .comma ∨ ∃ arg ∈ args, ∃ n ∈ arg, t ∈ flat n
  | [], member => by simp [flatArgs] at member
  | [arg], member => .inr ⟨arg, by simp, mem_flatAll.1 member⟩
  | arg :: next :: args, member => by
    rw [flatArgs.eq_3 _ _ (by simp)] at member
    rcases List.mem_append.1 member with first | behind
    · exact .inr ⟨arg, by simp, mem_flatAll.1 first⟩
    · rcases List.mem_cons.1 behind with rfl | rest
      · exact .inl rfl
      · exact (mem_flatArgs rest).imp_right fun ⟨found, inside, within⟩ =>
          ⟨found, List.mem_cons_of_mem _ inside, within⟩

theorem texts_closingToken (closed : Bool) : Token.texts (closingToken closed) = closing closed := by
  cases closed <;> rfl

mutual

/-- The text of a node is that of its tokens. -/
theorem texts_flat : ∀ n : Node, Token.texts (flat n) = text n
  | .leaf t => by simp [flat, text, write]
  | .ref r => by simp [flat, text, write, Token.text]
  | .range a b => by simp [flat, text, write, Token.text, rangeText]
  | .group body closed => by
    have inside := texts_flatAll body
    simp only [textAll] at inside
    simp [flat, text, write, Token.text, inside, texts_closingToken]
  | .call name args closed => by
    have inside := texts_flatArgs args
    simp [flat, text, write, Token.text, inside, texts_closingToken]

theorem texts_flatAll : ∀ ns : List Node, Token.texts (flatAll ns) = textAll ns
  | [] => rfl
  | n :: ns => by
    have first := texts_flat n
    have rest := texts_flatAll ns
    simp only [text, textAll] at first rest
    simp [flatAll, textAll, writeAll, first, rest]

theorem texts_flatArgs : ∀ args : List (List Node),
    Token.texts (flatArgs args) = writeArgs Ref.text rangeText args
  | [] => rfl
  | [arg] => by
    have first := texts_flatAll arg
    simp only [textAll] at first
    simp [flatArgs, writeArgs, first]
  | arg :: next :: args => by
    have first := texts_flatAll arg
    have rest := texts_flatArgs (next :: args)
    simp only [textAll] at first
    simp [flatArgs, writeArgs, first, rest, Token.text]

end

end Node

namespace Parser

open Node (flat flatAll flatArgs closingToken)

/-! ## No token is lost -/

/-- The tokens in front of an open bracket and of what is complete inside it. -/
def Frame.flat : Frame → List Token
  | .group before => flatAll before.reverse ++ [.lparen]
  | .call before name args =>
    flatAll before.reverse ++ .func name :: .lparen ::
      args.reverse.flatMap fun arg => flatAll arg ++ [.comma]

/-- The tokens of all that has been read. -/
def stateFlat (frames : List Frame) (now : List Node) : List Token :=
  frames.reverse.flatMap Frame.flat ++ flatAll now.reverse

theorem flatArgs_append (args : List (List Node)) (arg : List Node) :
    flatArgs (args ++ [arg]) = (args.flatMap fun a => flatAll a ++ [.comma]) ++ flatAll arg := by
  induction args with
  | nil => simp [flatArgs]
  | cons a args ih =>
    cases args with
    | nil => simp [flatArgs]
    | cons b args => simp_all [flatArgs]

theorem flatAll_finish (closed : Bool) (now : List Node) (frame : Frame) :
    flatAll (frame.finish closed now).reverse =
      frame.flat ++ flatAll now.reverse ++ closingToken closed := by
  cases frame with
  | group before => simp [Frame.finish, Frame.flat, flatAll, flat]
  | call before name args =>
    simp [Frame.finish, Frame.flat, flatAll, flat, flatArgs_append]

theorem flatAll_finishAll (frames : List Frame) (now : List Node) :
    flatAll (finishAll frames now) = stateFlat frames now := by
  induction frames generalizing now with
  | nil => simp [finishAll, stateFlat]
  | cons frame frames ih => simp [finishAll, ih, stateFlat, flatAll_finish, closingToken]

/-- Reading keeps the tokens: those that have been read and those that remain. -/
theorem flatAll_run (ts : List Token) (frames : List Frame) (now : List Node) :
    flatAll (run ts frames now) = stateFlat frames now ++ ts := by
  fun_induction run ts frames now with
  | case1 frames now => simp [flatAll_finishAll]
  | case2 a b ts frames now ih => simp [ih, stateFlat, flatAll, flat]
  | case3 r ts frames now _ ih => simp [ih, stateFlat, flatAll, flat]
  | case4 name ts frames now ih => simp [ih, stateFlat, Frame.flat, flatAll]
  | case5 ts frames now ih => simp [ih, stateFlat, Frame.flat, flatAll]
  | case6 ts frame frames now ih => simp [ih, stateFlat, flatAll_finish, closingToken]
  | case7 ts before name args frames now ih => simp [ih, stateFlat, Frame.flat, flatAll]
  | case8 t ts frames now _ _ _ _ _ _ ih => simp [ih, stateFlat, flatAll, flat]

/-- A formula has the tokens of its tree. -/
theorem flatAll_parse (formula : Text) : flatAll (parse formula) = Token.tokens formula := by
  rw [parse, ofTokens, flatAll_run]
  rfl

/-- A formula is the text of its tree. -/
theorem textAll_parse (formula : Text) : Node.textAll (parse formula) = formula := by
  rw [← Node.texts_flatAll, flatAll_parse, Token.texts_tokens]

end Parser
end CellGraph
