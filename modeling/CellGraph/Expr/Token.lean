import CellGraph.Expr.Ref
import CellGraph.Numeral.Literal
import CellGraph.Text.Blank

/-!
# Tokens of formulas

A formula is cut into tokens from left to right. At each place the first class that matches
decides, in this order: string literals, references, numbers, names directly before an opening
parenthesis, other names, operators, punctuation, runs of white space; any other character is
a token by itself. Each class takes as many characters as it can.

No character is lost: `texts_tokens` says that the texts of the tokens, one after another, are
the formula.
-/

namespace CellGraph

/-- A token. Literals are kept with their quotes, and all tokens as written. -/
inductive Token where
  | string (text : Text)
  | ref (r : Ref)
  | number (text : Text)
  | func (name : Text)
  | name (text : Text)
  | op (text : Text)
  | lparen
  | rparen
  | comma
  | colon
  | space (text : Text)
  | other (c : Char)
  deriving DecidableEq, Repr, Inhabited

namespace Token

def text : Token → Text
  | string t | number t | func t | name t | op t | space t => t
  | ref r => r.text
  | lparen => ['(']
  | rparen => [')']
  | comma => [',']
  | colon => [':']
  | other c => [c]

/-- The texts of tokens one after another. -/
def texts (ts : List Token) : Text := ts.flatMap text

/-- A string literal after its opening quote: the characters that belong to it, and the rest.
A doubled quote stays inside; a literal without a closing quote runs to the end. -/
def literalBody : Text → Text × Text
  | [] => ([], [])
  | '"' :: '"' :: t => let (body, rest) := literalBody t; ('"' :: '"' :: body, rest)
  | c :: t => if c = '"' then (['"'], t)
    else let (body, rest) := literalBody t; (c :: body, rest)

/-- ASCII letters and the underscore: what a function or a plain name starts with. -/
def isNameStart (c : Char) : Bool := c.isAlpha || c == '_'

def isOperator (c : Char) : Bool := ("-+*/^&=<>%" : Text).contains c

/-- The operator at the start of a text; comparisons may have two characters. -/
def scanOperator? : Text → Option (Text × Text)
  | '<' :: '>' :: t => some ("<>", t)
  | '<' :: '=' :: t => some ("<=", t)
  | '>' :: '=' :: t => some (">=", t)
  | c :: t => if isOperator c then some ([c], t) else none
  | [] => none

/-- The token that starts with a character which begins neither a literal, nor a reference, nor
a number, and the rest of the text. -/
def nextPlain (c : Char) (t : Text) : Token × Text :=
  let word := c :: t.takeWhile SheetName.isBareChar
  let rest := t.dropWhile SheetName.isBareChar
  if isNameStart c && rest.head? = some '(' then (.func word, rest)
  else if isNameStart c || c == '\\' then (.name word, rest)
  else match scanOperator? (c :: t) with
    | some (operator, rest) => (.op operator, rest)
    | none =>
      if c = '(' then (.lparen, t)
      else if c = ')' then (.rparen, t)
      else if c = ',' then (.comma, t)
      else if c = ':' then (.colon, t)
      else if Text.isBlank c then
        (.space (c :: t.takeWhile Text.isBlank), t.dropWhile Text.isBlank)
      else (.other c, t)

/-- The first token of a text that is not empty, and the rest. -/
def next (c : Char) (t : Text) : Token × Text :=
  if c = '"' then let (body, rest) := literalBody t; (.string ('"' :: body), rest)
  else match Ref.scan? (c :: t) with
    | some (r, rest) => (.ref r, rest)
    | none => match Literal.scan Char.isDigit (c :: t) with
      | some (l, rest) => (.number l.text, rest)
      | none => nextPlain c t

/-! ## No character is lost -/

theorem literalBody_append (t : Text) : (literalBody t).1 ++ (literalBody t).2 = t := by
  fun_induction literalBody t <;> simp_all

theorem eq_of_scanOperator? {t operator rest : Text}
    (h : scanOperator? t = some (operator, rest)) : t = operator ++ rest ∧ operator ≠ [] := by
  unfold scanOperator? at h
  split at h
  · cases h; simp
  · cases h; simp
  · cases h; simp
  · split at h
    · cases h; simp
    · simp at h
  · simp at h

theorem text_nextPlain (c : Char) (t : Text) :
    (nextPlain c t).1.text ++ (nextPlain c t).2 = c :: t ∧ (nextPlain c t).1.text ≠ [] := by
  unfold nextPlain
  dsimp only
  split
  · simp [text]
  · split
    · simp [text]
    · split
      · next found =>
        have whole := eq_of_scanOperator? found
        simp [text, whole]
      · split
        · simp_all [text]
        · split
          · simp_all [text]
          · split
            · simp_all [text]
            · split
              · simp_all [text]
              · split <;> simp [text]

/-- The first token and the rest make up the text, and the token is not empty. -/
theorem text_next (c : Char) (t : Text) :
    (next c t).1.text ++ (next c t).2 = c :: t ∧ (next c t).1.text ≠ [] := by
  unfold next
  split
  · next isQuote => simp [text, isQuote, literalBody_append]
  · split
    · next found =>
      have whole := Ref.eq_of_scan? found
      exact ⟨whole.1.symm, whole.2⟩
    · split
      · next found =>
        have whole := Literal.eq_of_scan found
        exact ⟨whole.1.symm, whole.2⟩
      · exact text_nextPlain c t

theorem length_next (c : Char) (t : Text) : (next c t).2.length ≤ t.length := by
  have whole := text_next c t
  have lengths := congrArg List.length whole.1
  have positive := List.length_pos_iff.2 whole.2
  simp only [List.length_append, List.length_cons] at lengths
  omega

def tokens : Text → List Token
  | [] => []
  | c :: t => (next c t).1 :: tokens (next c t).2
termination_by t => t.length
decreasing_by exact Nat.lt_succ_of_le (length_next c t)

/-- The texts of the tokens of a text, one after another, are the text. -/
theorem texts_tokens (t : Text) : texts (tokens t) = t := by
  fun_induction tokens t with
  | case1 => rfl
  | case2 c t ih =>
    rw [texts] at ih ⊢
    rw [List.flatMap_cons, ih, (text_next c t).1]

end Token
end CellGraph
