import CellGraph.Proofs.Parsing.Formed

/-!
# Tight trees

A tree is tight if its text is read as a tree of the same parts, wherever the parts come from: all
brackets are closed, no operand stands directly behind another, and no two nodes side by side make
one token. The tree that is read back (`parse_textAll_of_tight`) is the same but for numbers that
are written as words: these are read as names.
-/

namespace CellGraph

/-! ## Separators -/

namespace Token

/-- Characters that end whatever stands before them. -/
def Separator (c : Char) : Prop :=
  isOperator c ∨ c = ')' ∨ c = ',' ∨ c = ':' ∨ Text.isBlank c

/-- A text that starts with a separator, if it starts with anything. -/
def Separated (rest : Text) : Prop := ∀ c ∈ rest.head?, Separator c

theorem Separator.plain {c : Char} (separator : Separator c) : Plain c ∧ c ≠ '(' ∧ c ≠ '!' := by
  rcases separator with operator | rfl | rfl | rfl | blank
  · refine ⟨(plain_of_isOperator operator).1, ?_, ?_⟩ <;>
      (rintro rfl; exact absurd operator (by decide))
  · exact ⟨⟨by decide, by decide, by decide, by decide, by decide⟩, by decide, by decide⟩
  · exact ⟨⟨by decide, by decide, by decide, by decide, by decide⟩, by decide, by decide⟩
  · exact ⟨⟨by decide, by decide, by decide, by decide, by decide⟩, by decide, by decide⟩
  · exact ⟨plain_of_isBlank blank, ne_of_isBlank blank (by decide), ne_of_isBlank blank (by decide)⟩

theorem Separated.continues {rest : Text} (separated : Separated rest) :
    Ref.continues rest = false := by
  cases rest with
  | nil => rfl
  | cons c rest =>
    obtain ⟨plain, noBracket, noBang⟩ := (separated c rfl).plain
    simp [Ref.continues, SheetName.isBareChar, plain.noWord, plain.noPoint, noBracket, noBang]

theorem Separated.head_ne {rest : Text} (separated : Separated rest) :
    rest.head? ≠ some '$' ∧ rest.head? ≠ some '"' :=
  ⟨fun head => (separated '$' head).plain.1.noMark rfl,
    fun head => (separated '"' head).plain.1.noLiteral rfl⟩

/-- Characters with which operands start. -/
def StartsOperand (c : Char) : Prop :=
  c ∈ ['"', '\'', '$', '.', '(', '\\'] ∨ Text.isWordChar c

theorem StartsOperand.facts {c : Char} (start : StartsOperand c) :
    Text.isBlank c = false ∧ c ≠ '>' ∧ c ≠ '=' := by
  rcases start with listed | word
  · simp only [List.mem_cons, List.not_mem_nil, or_false] at listed
    rcases listed with rfl | rfl | rfl | rfl | rfl | rfl <;> decide
  · refine ⟨?_, ?_, ?_⟩
    · rw [Bool.eq_false_iff]
      intro blank
      simp [(plain_of_isBlank blank).noWord] at word
    · rintro rfl
      exact absurd word (by decide)
    · rintro rfl
      exact absurd word (by decide)

/-! ## Tokens -/

/-- Tokens that are operands by themselves. -/
def isOperand : Token → Bool
  | .string _ | .number _ | .name _ => true
  | _ => false

/-- A token that is not a literal without closing quote. -/
def Ended : Token → Prop
  | .string t => isClosed t.tail
  | _ => True

/-- The token as which a number is read that is written as a word; other tokens stay. -/
def settle : Token → Token
  | .number t => if t = "inf" ∨ t = "nan" then .name t else .number t
  | t => t

theorem settle_cases (t : Token) : t.settle = t ∨ ∃ w, t = .number w ∧ t.settle = .name w := by
  cases t with
  | number w =>
    simp only [settle]
    split
    · exact .inr ⟨w, rfl, rfl⟩
    · exact .inl rfl
  | _ => exact .inl rfl

@[simp] theorem text_settle (t : Token) : t.settle.text = t.text := by
  rcases t.settle_cases with same | ⟨w, rfl, read⟩
  · rw [same]
  · rw [read]
    rfl

theorem settle_of_whole {t : Token} (whole : t.Whole) : t.settle = t := by
  cases t with
  | number t =>
    obtain ⟨l, formed, rfl⟩ := whole
    obtain ⟨c, u, start, first⟩ := formed.head
    have noWord : ¬ (l.text = "inf" ∨ l.text = "nan") := by
      rw [start]
      rintro (same | same) <;>
        obtain ⟨rfl, -⟩ : c = _ ∧ u = _ := List.cons.inj same <;> revert first <;> decide
    rw [settle, if_neg noWord]
  | _ => rfl

theorem start_of_operand {t : Token} (whole : t.settle.Whole) (operand : t.isOperand) :
    ∃ c u, t.text = c :: u ∧ StartsOperand c := by
  rw [← text_settle]
  have kind : t.settle.isOperand := by
    rcases t.settle_cases with same | ⟨w, rfl, read⟩
    · rwa [same]
    · rw [read]
      rfl
  generalize t.settle = t at whole kind
  cases t with
  | string t =>
    obtain ⟨body, rfl, -⟩ := whole
    exact ⟨_, _, rfl, .inl (by simp)⟩
  | number t =>
    obtain ⟨l, formed, rfl⟩ := whole
    obtain ⟨c, u, start, digit | rfl⟩ := formed.head
    · exact ⟨c, u, start, .inr (Text.isWordChar_of_isDigit digit)⟩
    · exact ⟨_, u, start, .inl (by simp)⟩
  | name t =>
    obtain ⟨c, u, rfl, letter | rfl, -⟩ := whole
    · exact ⟨c, u, rfl, .inr (isWordChar_of_isNameStart letter)⟩
    · exact ⟨_, u, rfl, .inl (by simp)⟩
  | _ => cases kind

theorem start_of_operator {t : Text} (whole : Whole (.op t)) :
    ∃ c u, t = c :: u ∧ isOperator c := by
  rcases operator_cases whole with rfl | rfl | rfl | ⟨c, rfl, operator⟩
  · exact ⟨'<', _, rfl, rfl⟩
  · exact ⟨'<', _, rfl, rfl⟩
  · exact ⟨'>', _, rfl, rfl⟩
  · exact ⟨c, _, rfl, operator⟩

theorem start_of_space {t : Text} (whole : Whole (.space t)) :
    ∃ c u, t = c :: u ∧ Text.isBlank c := by
  obtain ⟨some_char, blank⟩ := whole
  obtain ⟨c, u, rfl⟩ := List.exists_cons_of_ne_nil some_char
  exact ⟨c, u, rfl, blank c (by simp)⟩

end Token

namespace Node

open Token (Lexed Whole Apart Separator Separated texts)

/-! ## Nodes -/

/-- Operands: literals, names, references, ranges and brackets. -/
def isTerm : Node → Bool
  | .leaf t => t.isOperand
  | _ => true

/-- Two nodes that stay apart when one is written behind the other. -/
structure Parted (m n : Node) : Prop where
  terms : ¬ (m.isTerm ∧ n.isTerm)
  spaces : ¬ (m.isSpace ∧ n.isSpace)
  ended : ∀ t, m = .leaf t → t.Ended
  operators : ∀ t u, m = .leaf (.op t) → n = .leaf (.op u) → Apart (.op t) u

mutual

/-- A tight node at a place. -/
def Tight : Site → Node → Prop
  | s, .leaf t => t.settle.Whole ∧ s.admits t ∧ (s ≠ .top → t.Ended)
  | _, .ref r => r.Formed
  | _, .range a b => a.Formed ∧ b.Formed
  | _, .group body closed => closed ∧ TightAll .group body
  | _, .call name args closed => closed ∧ Whole (.func name) ∧ args ≠ [] ∧ TightArgs args

/-- Tight nodes that stay apart. -/
def TightAll : Site → List Node → Prop
  | _, [] => True
  | s, n :: ns => Tight s n ∧ joins n ns = false ∧ (∀ m ∈ ns.head?, Parted n m) ∧ TightAll s ns

def TightArgs : List (List Node) → Prop
  | [] => True
  | arg :: args => TightAll .argument arg ∧ TightArgs args

end

theorem tightArgs_iff {args : List (List Node)} :
    TightArgs args ↔ ∀ arg ∈ args, TightAll .argument arg := by
  induction args with
  | nil => simp [TightArgs]
  | cons arg args ih => simp [TightArgs, ih]

theorem tight_of_mem {s : Site} {ns : List Node} (tight : TightAll s ns) : ∀ n ∈ ns, Tight s n := by
  induction ns with
  | nil => simp
  | cons n ns ih => exact List.forall_mem_cons.2 ⟨tight.1, ih tight.2.2.2⟩

theorem tight_number {s : Site} {t : Text} (whole : Token.Whole (.number t)) :
    Tight s (.leaf (.number t)) :=
  ⟨by rwa [Token.settle_of_whole whole], by cases s <;> rfl, fun _ => trivial⟩

mutual

/-- The node as which a node is read back. -/
def settle : Node → Node
  | .leaf t => .leaf t.settle
  | .group body closed => .group (settleAll body) closed
  | .call name args closed => .call name (settleArgs args) closed
  | n => n

def settleAll : List Node → List Node
  | [] => []
  | n :: ns => settle n :: settleAll ns

def settleArgs : List (List Node) → List (List Node)
  | [] => []
  | arg :: args => settleAll arg :: settleArgs args

end

mutual

theorem text_settle : ∀ n : Node, n.settle.text = n.text
  | .leaf t => by simp [settle, text, write]
  | .ref _ | .range _ _ => rfl
  | .group body closed => by
    have inside := textAll_settleAll body
    simp only [textAll] at inside
    simp [settle, text, write, inside]
  | .call name args closed => by
    have inside := textArgs_settleArgs args
    simp [settle, text, write, inside]

/-- A tree has the text of the tree as which it is read back. -/
theorem textAll_settleAll : ∀ ns : List Node, textAll (settleAll ns) = textAll ns
  | [] => rfl
  | n :: ns => by
    have first := text_settle n
    have rest := textAll_settleAll ns
    simp only [text, textAll] at first rest
    simp [settleAll, textAll, writeAll, first, rest]

theorem textArgs_settleArgs : ∀ args : List (List Node),
    writeArgs Ref.text rangeText (settleArgs args) = writeArgs Ref.text rangeText args
  | [] => rfl
  | [arg] => textAll_settleAll arg
  | arg :: next :: args => by
    have first := textAll_settleAll arg
    have rest := textArgs_settleArgs (next :: args)
    simp only [textAll] at first
    simp only [settleArgs] at rest
    simp [settleArgs, writeArgs, first, rest]

end

/-! ## Lexing -/

/-- A text in front of which a node ends. -/
structure Meets (n : Node) (rest : Text) : Prop where
  term : n.isTerm → Separated rest
  space : n.isSpace → ∀ c ∈ rest.head?, Text.isBlank c = false
  operator : ∀ t, n = .leaf (.op t) → Apart (.op t) rest
  ended : rest = [] ∨ ∀ t, n = .leaf t → t.Ended

/-- A text in front of which every tight sequence at a place ends: nothing, or the end of an
argument or a group. -/
def Closes (s : Site) (rest : Text) : Prop :=
  rest = [] ∨ s ≠ .top ∧ ∃ u, rest = ')' :: u ∨ rest = ',' :: u

theorem meets_of_closes {s : Site} {n : Node} {rest : Text} (tight : Tight s n)
    (closes : Closes s rest) : Meets n rest := by
  have ended : rest = [] ∨ ∀ t, n = .leaf t → t.Ended := by
    rcases closes with rfl | ⟨inside, -⟩
    · exact .inl rfl
    · refine .inr ?_
      rintro t rfl
      exact tight.2.2 inside
  have head : ∀ c ∈ rest.head?, c = ')' ∨ c = ',' := by
    rcases closes with rfl | ⟨-, u, rfl | rfl⟩ <;> simp
  refine ⟨fun _ c member => ?_, fun _ c member => ?_, fun t _ c member => ?_, ended⟩
  · rcases head c member with rfl | rfl
    · exact .inr (.inl rfl)
    · exact .inr (.inr (.inl rfl))
  · rcases head c member with rfl | rfl <;> decide
  · rcases head c member with rfl | rfl <;> exact ⟨fun _ => by decide, fun _ => by decide⟩

/-- What the first character of a tight node says about the node. -/
structure Starts (n : Node) (c : Char) : Prop where
  separator : n.isTerm = false → Separator c
  noBlank : n.isSpace = false → Text.isBlank c = false
  noOperator : (∀ t, n ≠ .leaf (.op t)) → c ≠ '>' ∧ c ≠ '='

theorem starts_of_operand {n : Node} {c : Char} (term : n.isTerm) (start : Token.StartsOperand c) :
    Starts n c :=
  ⟨fun other => absurd (term.symm.trans other) (by decide), fun _ => start.facts.1,
    fun _ => start.facts.2⟩

theorem start_ref {r : Ref} (formed : r.Formed) :
    ∃ c t, r.text = c :: t ∧ Token.StartsOperand c := by
  obtain ⟨c, t, start, quote | dollar | word⟩ := formed.head
  · exact ⟨c, t, start, .inl (by simp [quote])⟩
  · exact ⟨c, t, start, .inl (by simp [dollar])⟩
  · exact ⟨c, t, start, .inr word⟩

theorem start_of_tight {s : Site} {n : Node} (tight : Tight s n) :
    ∃ c t, texts (flat n.settle) = c :: t ∧ Starts n c := by
  cases n with
  | leaf t =>
    have text : texts (flat (settle (.leaf t))) = t.text := by simp [settle, flat]
    rw [text]
    obtain ⟨whole, admitted, -⟩ := tight
    cases operand : t.isOperand with
    | true =>
      obtain ⟨c, u, start, first⟩ := Token.start_of_operand whole operand
      exact ⟨c, u, start, starts_of_operand operand first⟩
    | false =>
      cases t with
      | op t =>
        obtain ⟨c, u, rfl, operator⟩ := Token.start_of_operator whole
        refine ⟨c, u, rfl, fun _ => .inl operator, fun _ => ?_, fun other => absurd rfl (other _)⟩
        exact (Token.plain_of_isOperator operator).2.2
      | space t =>
        obtain ⟨c, u, rfl, blank⟩ := Token.start_of_space whole
        refine ⟨c, u, rfl, fun _ => .inr (.inr (.inr (.inr blank))), (by rintro ⟨⟩), fun _ => ?_⟩
        exact ⟨Token.ne_of_isBlank blank (by decide), Token.ne_of_isBlank blank (by decide)⟩
      | comma =>
        exact ⟨',', [], rfl, fun _ => .inr (.inr (.inl rfl)), fun _ => by decide, fun _ => by decide⟩
      | colon =>
        refine ⟨':', [], rfl, fun _ => .inr (.inr (.inr (.inl rfl))), fun _ => by decide, ?_⟩
        exact fun _ => by decide
      | rparen =>
        exact ⟨')', [], rfl, fun _ => .inr (.inl rfl), fun _ => by decide, fun _ => by decide⟩
      | ref r => simp [Site.admits] at admitted
      | func name => simp [Site.admits] at admitted
      | lparen => simp [Site.admits] at admitted
      | other c => cases whole
      | _ => cases operand
  | ref r =>
    obtain ⟨c, t, start, first⟩ := start_ref tight
    exact ⟨c, t, by simp [settle, flat, Token.text, start], starts_of_operand rfl first⟩
  | range a b =>
    obtain ⟨c, t, start, first⟩ := start_ref tight.1
    exact ⟨c, _, by simp [settle, flat, Token.text, start]; rfl, starts_of_operand rfl first⟩
  | group body closed =>
    exact ⟨'(', _, by simp [settle, flat, Token.text]; rfl, starts_of_operand rfl (.inl (by simp))⟩
  | call name args closed =>
    obtain ⟨c, t, rfl, first, -⟩ := tight.2.1
    refine ⟨c, _, by simp [settle, flat, Token.text]; rfl, starts_of_operand rfl (.inr ?_)⟩
    exact Token.isWordChar_of_isNameStart first

/-- A node ends in front of one from which it is parted. -/
theorem meets_of_parted {s : Site} {m n : Node} (tight : Tight s n) (parted : Parted m n)
    (rest : Text) : Meets m (texts (flat n.settle) ++ rest) := by
  obtain ⟨c, v, start, starts⟩ := start_of_tight tight
  rw [start]
  refine ⟨fun term => ?_, fun space => ?_, fun t same => ?_, .inr parted.ended⟩
  · rintro d ⟨⟩
    exact starts.separator (by simpa using fun other => parted.terms ⟨term, other⟩)
  · rintro d ⟨⟩
    exact starts.noBlank (by simpa using fun other => parted.spaces ⟨space, other⟩)
  · rintro d ⟨⟩
    by_cases operator : ∃ u, n = .leaf (.op u)
    · obtain ⟨u, rfl⟩ := operator
      have whole : u = c :: v := by simpa [settle, Token.settle, flat, Token.text] using start
      exact parted.operators _ u same rfl c (by simp [whole])
    · have facts := starts.noOperator fun u same => operator ⟨u, same⟩
      exact ⟨fun _ => facts, fun _ => facts.2⟩

theorem apart_of_meets {s : Site} {t : Token} {rest : Text} (tight : Tight s (.leaf t))
    (meets : Meets (.leaf t) rest) : Apart t.settle rest := by
  have word : t.isOperand → Ref.continues rest = false ∧ rest.head? ≠ some '$' ∧
      rest.head? ≠ some '"' := fun operand =>
    ⟨(meets.term operand).continues, (meets.term operand).head_ne⟩
  cases t with
  | string t =>
    rcases meets.ended with nothing | ended
    · exact .inl nothing
    · exact .inr ⟨ended _ rfl, (word rfl).2.2⟩
  | number t =>
    simp only [Token.settle]
    split
    · exact ⟨(word rfl).1, (word rfl).2.1⟩
    · exact (word rfl).1
  | name t => exact ⟨(word rfl).1, (word rfl).2.1⟩
  | op t => exact meets.operator t rfl
  | space t => exact meets.space rfl
  | ref r => simp [Tight, Site.admits] at tight
  | func name => simp [Tight, Site.admits] at tight
  | _ => trivial

mutual

theorem lexed_settle : ∀ {n : Node} {s : Site}, Tight s n → ∀ {rest : Text}, Meets n rest →
    Lexed (flat n.settle) rest
  | .leaf t, _, tight, rest, meets => by
    exact ⟨tight.1, by simpa using apart_of_meets tight meets, trivial⟩
  | .ref r, _, tight, rest, meets => by
    exact ⟨tight, by simpa [Apart] using (meets.term rfl).continues, trivial⟩
  | .range a b, _, tight, rest, meets => by
    refine ⟨tight.1, rfl, trivial, trivial, tight.2, ?_, trivial⟩
    simpa [Apart] using (meets.term rfl).continues
  | .group body closed, _, ⟨isClosed, tight⟩, rest, _ => by
    subst isClosed
    have inside : Lexed (flatAll (settleAll body)) (')' :: rest) :=
      lexed_settleAll tight (.inr ⟨by simp, rest, .inl rfl⟩)
    refine ⟨trivial, trivial, ?_⟩
    simpa [Token.lexed_append, Token.text, closingToken, Lexed, Whole, Apart] using inside
  | .call name args closed, _, ⟨isClosed, named, _, tight⟩, rest, _ => by
    subst isClosed
    have inside : Lexed (flatArgs (settleArgs args)) (')' :: rest) := lexed_settleArgs tight
    refine ⟨named, by simp [Apart, Token.text], trivial, trivial, ?_⟩
    simpa [Token.lexed_append, Token.text, closingToken, Lexed, Whole, Apart] using inside

/-- Tight nodes are lexed as they are read back, in front of whatever ends them. -/
theorem lexed_settleAll : ∀ {ns : List Node} {s : Site}, TightAll s ns → ∀ {rest : Text},
    Closes s rest → Lexed (flatAll (settleAll ns)) rest
  | [], _, _, _, _ => trivial
  | [n], _, ⟨tight, _, _, _⟩, rest, closes => by
    have first : Lexed (flat n.settle) rest := lexed_settle tight (meets_of_closes tight closes)
    simpa [settleAll, flatAll] using first
  | n :: m :: ns, _, ⟨tight, _, parted, others⟩, rest, closes => by
    have meets := meets_of_parted others.1 (parted m rfl) (texts (flatAll (settleAll ns)) ++ rest)
    rw [settleAll, flatAll, Token.lexed_append]
    refine ⟨lexed_settle tight ?_, lexed_settleAll others closes⟩
    simpa [settleAll, flatAll] using meets

theorem lexed_settleArgs : ∀ {args : List (List Node)}, TightArgs args → ∀ {rest : Text},
    Lexed (flatArgs (settleArgs args)) (')' :: rest)
  | [], _, _ => trivial
  | [arg], ⟨tight, _⟩, rest => by
    exact lexed_settleAll tight (.inr ⟨by simp, rest, .inl rfl⟩)
  | arg :: next :: args, ⟨tight, others⟩, rest => by
    have first : Lexed (flatAll (settleAll arg))
        (',' :: (texts (flatArgs (settleArgs (next :: args))) ++ ')' :: rest)) :=
      lexed_settleAll tight (.inr ⟨by simp, _, .inr rfl⟩)
    rw [settleArgs, flatArgs.eq_3 _ _ (by simp [settleArgs]), Token.lexed_append]
    refine ⟨by simpa [Token.text] using first, trivial, trivial, lexed_settleArgs others⟩

end

/-! ## Reading back -/

@[simp] theorem startsRange_settle (n : Node) : n.settle.startsRange = n.startsRange := by
  cases n <;> rfl

theorem eq_of_settle_eq_ref {n : Node} {r : Ref} (same : n.settle = .ref r) : n = .ref r := by
  cases n with
  | ref => exact same
  | _ => cases same

theorem eq_of_settle_eq_colon {n : Node} (same : n.settle = .leaf .colon) : n = .leaf .colon := by
  cases n with
  | leaf t =>
    rcases t.settle_cases with kept | ⟨w, rfl, read⟩
    · rwa [settle, kept] at same
    · rw [settle, read] at same
      cases same
  | _ => cases same

theorem joins_settleAll {n : Node} {ns : List Node} (apart : joins n ns = false) :
    joins n.settle (settleAll ns) = false := by
  rw [Bool.eq_false_iff]
  intro joined
  obtain ⟨r, k, rest, first, range, same⟩ := joins_eq_true joined
  obtain rfl := eq_of_settle_eq_ref first
  match ns with
  | [] => cases same
  | [m] => simp [settleAll] at same
  | m :: l :: ns =>
    simp only [settleAll, List.cons.injEq] at same
    obtain ⟨colon, rfl, -⟩ := same
    obtain rfl := eq_of_settle_eq_colon colon
    rw [startsRange_settle] at range
    rw [joins_of_startsRange r range] at apart
    cases apart

mutual

theorem formed_settle : ∀ {n : Node} {s : Site}, Tight s n → Formed s n.settle
  | .leaf t, s, ⟨_, admitted, _⟩ => by
    rcases t.settle_cases with same | ⟨w, rfl, read⟩
    · rwa [settle, same]
    · rw [settle, read]
      cases s <;> rfl
  | .ref _, _, _ | .range _ _, _, _ => trivial
  | .group _ _, _, ⟨isClosed, tight⟩ => ⟨isClosed, formed_settleAll tight⟩
  | .call _ args _, _, ⟨isClosed, _, some_arg, tight⟩ => by
    refine ⟨isClosed, ?_, formed_settleArgs tight⟩
    cases args with
    | nil => exact absurd rfl some_arg
    | cons arg args => simp [settleArgs]

theorem formed_settleAll : ∀ {ns : List Node} {s : Site}, TightAll s ns →
    FormedAll s (settleAll ns)
  | [], _, _ => trivial
  | _ :: _, _, ⟨tight, apart, _, others⟩ =>
    ⟨formed_settle tight, joins_settleAll apart, formed_settleAll others⟩

theorem formed_settleArgs : ∀ {args : List (List Node)}, TightArgs args →
    FormedArgs (settleArgs args)
  | [], _ => trivial
  | _ :: _, ⟨tight, others⟩ => ⟨formed_settleAll tight, formed_settleArgs others⟩

end

end Node

/-- The text of a tight tree is read as that tree, but for numbers that are written as words. -/
theorem Parser.parse_textAll_of_tight {ns : List Node} (tight : Node.TightAll .top ns) :
    parse (Node.textAll ns) = Node.settleAll ns := by
  rw [← Node.textAll_settleAll]
  exact parse_textAll_of_formed (Node.lexed_settleAll tight (.inl rfl)) (Node.formed_settleAll tight)

end CellGraph
