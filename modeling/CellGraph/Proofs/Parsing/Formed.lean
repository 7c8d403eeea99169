import CellGraph.Proofs.Parsing.Flat

/-!
# Closed trees

Trees whose brackets are all closed and in which every node stands where the parser would put it.
`ofTokens_flatAll` says that such a tree is read back from its tokens, `parse_textAll_of_formed`
that it is read back from its text when its tokens are lexed.
-/

namespace CellGraph

open CellGraph.Parser (Frame)

/-! ## The place of a sequence -/

/-- Where a sequence of nodes stands: outside of all brackets, in a group or in an argument. -/
inductive Site where
  | top
  | group
  | argument
  deriving DecidableEq, Repr

/-- The place of what is read next. -/
def Site.of : List Frame → Site
  | [] => .top
  | .group _ :: _ => .group
  | .call .. :: _ => .argument

/-- The tokens that are leaves at a place. A closing parenthesis is one outside of brackets only,
a comma is none directly in a call. -/
def Site.admits : Site → Token → Bool
  | _, .ref _ | _, .func _ | _, .lparen => false
  | s, .rparen => s = .top
  | s, .comma => s ≠ .argument
  | _, _ => true

namespace Node

/-- Whether the parser would join a reference with the nodes after it to a range. -/
def joins : Node → List Node → Bool
  | .ref _, .leaf .colon :: .ref _ :: _ => true
  | .ref _, .leaf .colon :: .range _ _ :: _ => true
  | _, _ => false

/-- Whether a node starts with a reference, which may be the end of a range. -/
def startsRange : Node → Bool
  | .ref _ | .range _ _ => true
  | _ => false

/-- A range is made of three nodes. -/
theorem joins_eq_true {m : Node} {ns : List Node} (joined : joins m ns) :
    ∃ r n rest, m = .ref r ∧ n.startsRange ∧ ns = .leaf .colon :: n :: rest := by
  unfold joins at joined
  split at joined
  · exact ⟨_, _, _, rfl, rfl, rfl⟩
  · exact ⟨_, _, _, rfl, rfl, rfl⟩
  · cases joined

theorem joins_of_startsRange (r : Ref) {n : Node} (range : n.startsRange) (rest : List Node) :
    joins (.ref r) (.leaf .colon :: n :: rest) := by
  cases n with
  | ref => rfl
  | range => rfl
  | _ => cases range

mutual

/-- A node that may stand at a place, with all brackets closed. -/
def Formed : Site → Node → Prop
  | s, .leaf t => s.admits t
  | _, .ref _ => True
  | _, .range _ _ => True
  | _, .group body closed => closed ∧ FormedAll .group body
  | _, .call _ args closed => closed ∧ args ≠ [] ∧ FormedArgs args

/-- Nodes that may stand at a place one after another. -/
def FormedAll : Site → List Node → Prop
  | _, [] => True
  | s, n :: ns => Formed s n ∧ joins n ns = false ∧ FormedAll s ns

/-- Arguments that may stand in a call. -/
def FormedArgs : List (List Node) → Prop
  | [] => True
  | arg :: args => FormedAll .argument arg ∧ FormedArgs args

end

end Node

namespace Parser

open Node (flat flatAll flatArgs Formed FormedAll FormedArgs joins)

/-! ## Reading back -/

/-- Tokens that end a sequence of nodes: no colon and no reference comes next. -/
def Closes (ts : List Token) : Prop := ts.head? ≠ some .colon ∧ ∀ r, ts.head? ≠ some (.ref r)

/-- Tokens that do not make a range of a reference in front of them. -/
def NoRange (ts : List Token) : Prop := ∀ b us, ts ≠ .colon :: .ref b :: us

theorem run_leaf {frames : List Frame} {t : Token} (admitted : (Site.of frames).admits t)
    (now : List Node) (ts : List Token) :
    run (t :: ts) frames now = run ts frames (.leaf t :: now) := by
  cases t with
  | ref r => simp [Site.admits] at admitted
  | func name => simp [Site.admits] at admitted
  | lparen => simp [Site.admits] at admitted
  | rparen =>
    cases frames with
    | nil => simp [run]
    | cons frame frames => cases frame <;> simp [Site.admits, Site.of] at admitted
  | comma =>
    cases frames with
    | nil => simp [run]
    | cons frame frames =>
      cases frame with
      | group before => simp [run]
      | call before name args => simp [Site.admits, Site.of] at admitted
  | _ => simp [run]

theorem run_ref {ts : List Token} (apart : NoRange ts) (r : Ref) (frames : List Frame)
    (now : List Node) : run (.ref r :: ts) frames now = run ts frames (.ref r :: now) := by
  rw [run]
  intro b us same
  exact apart b us same

theorem not_mem_of_formedAll {s : Site} {ns : List Node} (formed : FormedAll s ns) (a : Ref) :
    .leaf (.ref a) ∉ ns := by
  induction ns with
  | nil => simp
  | cons n ns ih =>
    rw [List.mem_cons, not_or]
    refine ⟨?_, ih formed.2.2⟩
    rintro rfl
    simpa [Formed, Site.admits] using formed.1

/-- The tokens of a sequence make no range with a reference in front if the nodes do not. -/
theorem noRange_flatAll {r : Ref} {ns : List Node} {ts : List Token}
    (noRef : ∀ a, .leaf (.ref a) ∉ ns) (apart : joins (.ref r) ns = false) (closes : Closes ts) :
    NoRange (flatAll ns ++ ts) := by
  intro b us same
  cases ns with
  | nil => exact closes.1 (by simpa [flatAll] using congrArg List.head? same)
  | cons n ns =>
    simp only [flatAll, List.append_assoc] at same
    cases n with
    | leaf t =>
      simp only [flat, List.cons_append, List.nil_append, List.cons.injEq] at same
      obtain ⟨rfl, same⟩ := same
      cases ns with
      | nil => exact closes.2 b (by simpa [flatAll] using congrArg List.head? same)
      | cons m ns =>
        simp only [flatAll, List.append_assoc] at same
        cases m with
        | leaf t =>
          simp only [flat, List.cons_append, List.nil_append, List.cons.injEq] at same
          obtain ⟨rfl, -⟩ := same
          exact noRef b (by simp)
        | ref a => simp [joins] at apart
        | range a c => simp [joins] at apart
        | group body closed => simp [flat] at same
        | call name args closed => simp [flat] at same
    | ref a => simp [flat] at same
    | range a c => simp [flat] at same
    | group body closed => simp [flat] at same
    | call name args closed => simp [flat] at same

mutual

theorem run_flat : ∀ (n : Node) {frames : List Frame} (now : List Node) {ts : List Token},
    Formed (Site.of frames) n → (∀ r, n = .ref r → NoRange ts) →
    run (flat n ++ ts) frames now = run ts frames (n :: now)
  | .leaf t, frames, now, ts, formed, _ => run_leaf formed now ts
  | .ref r, frames, now, ts, _, apart => run_ref (apart r rfl) r frames now
  | .range a b, frames, now, ts, _, _ => by simp [flat, run]
  | .group body closed, frames, now, ts, ⟨isClosed, inside⟩, _ => by
    subst isClosed
    have read := run_flatAll body (.group now :: frames) [] (.rparen :: ts) inside
      ⟨by simp, by simp⟩
    simp only [flat, Node.closingToken, if_true, List.cons_append, List.append_assoc,
      List.nil_append, run]
    rw [read]
    simp [run, Frame.finish]
  | .call name args closed, frames, now, ts, ⟨isClosed, some_arg, inside⟩, _ => by
    subst isClosed
    simp only [flat, Node.closingToken, if_true, List.cons_append, List.append_assoc,
      List.nil_append, run]
    rw [run_flatArgs args now name [] inside some_arg]
    simp

/-- A closed sequence of nodes is read back from its tokens. -/
theorem run_flatAll : ∀ (ns : List Node) (frames : List Frame) (now : List Node) (ts : List Token),
    FormedAll (Site.of frames) ns → Closes ts →
    run (flatAll ns ++ ts) frames now = run ts frames (ns.reverse ++ now)
  | [], _, _, _, _, _ => rfl
  | n :: ns, frames, now, ts, ⟨first, apart, rest⟩, closes => by
    have behind : ∀ r, n = .ref r → NoRange (flatAll ns ++ ts) := by
      rintro r rfl
      exact noRange_flatAll (not_mem_of_formedAll rest) apart closes
    rw [flatAll, List.append_assoc, run_flat n now first behind,
      run_flatAll ns frames (n :: now) ts rest closes]
    simp

/-- The arguments of a call are read back up to its closing parenthesis. -/
theorem run_flatArgs : ∀ (args : List (List Node)) {frames : List Frame} (before : List Node)
    (name : Text) (done : List (List Node)) {ts : List Token}, FormedArgs args → args ≠ [] →
    run (flatArgs args ++ .rparen :: ts) (.call before name done :: frames) [] =
      run ts frames (.call name (done.reverse ++ args) true :: before)
  | [], _, _, _, _, _, _, some_arg => absurd rfl some_arg
  | [arg], frames, before, name, done, ts, ⟨first, _⟩, _ => by
    have read := run_flatAll arg (.call before name done :: frames) [] (.rparen :: ts) first
      ⟨by simp, by simp⟩
    rw [flatArgs, read]
    simp [run, Frame.finish]
  | arg :: next :: args, frames, before, name, done, ts, ⟨first, rest⟩, _ => by
    have read := run_flatAll arg (.call before name done :: frames) []
      (.comma :: (flatArgs (next :: args) ++ .rparen :: ts)) first ⟨by simp, by simp⟩
    rw [flatArgs.eq_3 _ _ (by simp), List.append_assoc, List.cons_append, read]
    simp only [run, List.append_nil, List.reverse_reverse]
    rw [run_flatArgs (next :: args) before name (arg :: done) rest (by simp)]
    simp

end

/-- A closed tree is read back from its tokens. -/
theorem ofTokens_flatAll {ns : List Node} (formed : FormedAll .top ns) :
    ofTokens (flatAll ns) = ns := by
  have read := run_flatAll ns [] [] [] formed ⟨by simp, by simp⟩
  simpa [ofTokens, run, finishAll] using read

/-- A closed tree whose tokens are lexed is read back from its text. -/
theorem parse_textAll_of_formed {ns : List Node} (lexed : Token.Lexed (flatAll ns) [])
    (formed : FormedAll .top ns) : parse (Node.textAll ns) = ns := by
  rw [parse, ← Node.texts_flatAll, Token.tokens_texts lexed, ofTokens_flatAll formed]

/-- A reference that stands alone is read as one. -/
theorem parse_text_ref {r : Ref} (formed : r.Formed) : parse r.text = [.ref r] := by
  have lexed : Token.Lexed (Node.flatAll [.ref r]) [] := ⟨formed, rfl, trivial⟩
  have alone : FormedAll .top [.ref r] := ⟨trivial, rfl, trivial⟩
  have read := parse_textAll_of_formed lexed alone
  simpa [Node.textAll, Node.writeAll, Node.write] using read

end Parser
end CellGraph
