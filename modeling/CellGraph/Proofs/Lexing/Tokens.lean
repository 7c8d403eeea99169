import Mathlib.Data.List.Chain
import CellGraph.Proofs.Lexing.Token

/-!
# Sequences of tokens

Tokens that are whole and end where the next one starts are read back from their texts:
`tokens_texts`. The tokens of a formula are whole unless they are names or characters that stand for
themselves (`whole_of_mem_tokens`), and no white space follows white space (`spaced_tokens`).

A `Change` puts other literals and other references into tokens and keeps all else.
-/

namespace CellGraph.Token

/-- Tokens that are whole and of which each ends where the rest starts. -/
def Lexed : List Token → Text → Prop
  | [], _ => True
  | t :: ts, rest => Whole t ∧ Apart t (texts ts ++ rest) ∧ Lexed ts rest

@[simp] theorem texts_nil : texts [] = [] := rfl

@[simp] theorem texts_cons (t : Token) (ts : List Token) : texts (t :: ts) = t.text ++ texts ts := by
  simp [texts]

@[simp] theorem texts_append (ts us : List Token) : texts (ts ++ us) = texts ts ++ texts us := by
  simp [texts]

theorem lexed_append {ts us : List Token} {rest : Text} :
    Lexed (ts ++ us) rest ↔ Lexed ts (texts us ++ rest) ∧ Lexed us rest := by
  induction ts with
  | nil => simp [Lexed]
  | cons t ts ih => simp [Lexed, ih, and_assoc]

/-- Lexed tokens are read back, whatever comes behind them. -/
theorem tokens_texts_append {ts : List Token} {rest : Text} (lexed : Lexed ts rest) :
    tokens (texts ts ++ rest) = ts ++ tokens rest := by
  induction ts with
  | nil => rfl
  | cons t ts ih =>
    obtain ⟨whole, apart, tail⟩ := lexed
    obtain ⟨c, u, start, read⟩ := next_text whole apart
    rw [texts_cons, List.append_assoc, start, List.cons_append, tokens, read, ih tail]
    rfl

theorem tokens_texts {ts : List Token} (lexed : Lexed ts []) : tokens (texts ts) = ts := by
  have read := tokens_texts_append lexed
  rwa [List.append_nil, tokens, List.append_nil] at read

/-! ## The tokens of a formula -/

/-- Numbers and names: words that other words and single characters may continue. -/
def isWord : Token → Bool
  | .number _ | .name _ => true
  | _ => false

/-- Whether a token is a character that stands for itself. -/
def isOther : Token → Bool
  | .other _ => true
  | _ => false

/-- A name that is read is no address by itself, if nothing continues it. -/
theorem scanAddress?_name {c : Char} {u rest : Text} (start : isNameStart c ∨ c = '\\')
    (word : ∀ d ∈ u, SheetName.isBareChar d) (noRef : Ref.scan? (c :: u ++ rest) = none)
    (ends : Ref.continues rest = false) : Ref.scanAddress? (c :: u) = none := by
  rcases start with start | rfl
  · cases found : Ref.scanAddress? (c :: u) with
    | none => rfl
    | some read =>
      obtain ⟨written, address, rest'⟩ := read
      rw [← List.append_nil (c :: u)] at found
      obtain ⟨rfl, rfl⟩ := eq_of_scanAddress?_word (bare_word start word) (by simp) (by simp) found
      have alone := Ref.scanAddress?_text (Ref.isAddress_of_scanAddress? found).1 ends
      simp only [Ref.scan?, Ref.scanLocal?, alone] at noRef
      simp at noRef
  · exact scanAddress?_eq_none u (by decide) (by decide)

theorem whole_apart_of_nextPlain {c : Char} {t rest : Text} {token : Token}
    (h : nextPlain c t = (token, rest)) (noRef : Ref.scan? (c :: t) = none)
    (known : isOther token = false)
    (parted : isWord token → Ref.continues rest = false ∧ rest.head? ≠ some '$') :
    Whole token ∧ Apart token rest := by
  have inside := Text.takeWhile_inside (p := SheetName.isBareChar) t
  have whole := List.takeWhile_append_dropWhile (p := SheetName.isBareChar) (l := t)
  unfold nextPlain at h
  dsimp only at h
  split at h
  · next isFunc =>
    cases h
    simp only [Bool.and_eq_true, decide_eq_true_eq] at isFunc
    exact ⟨⟨c, _, rfl, isFunc.1, inside⟩, isFunc.2⟩
  · split at h
    · next isName =>
      cases h
      have start : isNameStart c ∨ c = '\\' := by simpa using isName
      obtain ⟨ends, noMark⟩ := parted rfl
      have noAddress := scanAddress?_name start inside (by rwa [List.cons_append, whole]) ends
      exact ⟨⟨c, _, rfl, start, inside, noAddress⟩, ends, noMark⟩
    · split at h
      · next found =>
        cases h
        exact apart_of_scanOperator? found
      · split at h
        · cases h
          exact ⟨trivial, trivial⟩
        · split at h
          · cases h
            exact ⟨trivial, trivial⟩
          · split at h
            · cases h
              exact ⟨trivial, trivial⟩
            · split at h
              · cases h
                exact ⟨trivial, trivial⟩
              · split at h
                · next blank =>
                  cases h
                  refine ⟨⟨by simp, ?_⟩, Text.dropWhile_stop t⟩
                  intro d member
                  rcases List.mem_cons.1 member with rfl | behind
                  · exact blank
                  · exact Text.takeWhile_inside t d behind
                · cases h
                  simp [isOther] at known

/-- A token that is read is whole and ends there, unless it is a character that stands for itself
or a word that is continued. -/
theorem whole_apart_of_next {c : Char} {t rest : Text} {token : Token}
    (h : next c t = (token, rest)) (known : isOther token = false)
    (parted : isWord token → Ref.continues rest = false ∧ rest.head? ≠ some '$') :
    Whole token ∧ Apart token rest := by
  unfold next at h
  split at h
  · cases h
    obtain ⟨again, ends⟩ := isClosed_of_literalBody (t := t) rfl
    exact ⟨⟨_, rfl, again⟩, ends⟩
  · split at h
    · next found =>
      cases h
      exact Ref.formed_of_scan? found
    · next noRef =>
      split at h
      · next found =>
        cases h
        exact ⟨⟨_, Literal.formed_of_scan found, rfl⟩, (parted rfl).1⟩
      · exact whole_apart_of_nextPlain h noRef known parted

theorem whole_apart_next (c : Char) (t : Text) (known : isOther (next c t).1 = false)
    (parted : isWord (next c t).1 →
      Ref.continues (next c t).2 = false ∧ (next c t).2.head? ≠ some '$') :
    Whole (next c t).1 ∧ Apart (next c t).1 (next c t).2 :=
  whole_apart_of_next rfl known parted

theorem nextPlain_ne_number (c : Char) (t u : Text) : (nextPlain c t).1 ≠ .number u := by
  unfold nextPlain
  dsimp only
  repeat' split
  all_goals simp

/-- The tokens of a formula are whole, apart from names and from characters that stand for
themselves. -/
theorem whole_of_mem_tokens {formula : Text} {t : Token} (member : t ∈ tokens formula)
    (known : isOther t = false) (noName : ∀ name, t ≠ .name name) : Whole t := by
  fun_induction tokens formula with
  | case1 => simp at member
  | case2 c u ih =>
    rcases List.mem_cons.1 member with rfl | later
    · by_cases word : isWord (next c u).1
      · unfold next at word noName ⊢
        split
        · simp_all [isWord]
        · split
          · simp_all [isWord]
          · split
            · next found => exact ⟨_, Literal.formed_of_scan found, rfl⟩
            · cases plain : (nextPlain c u).1 with
              | number w => exact absurd plain (nextPlain_ne_number c u w)
              | name w => simp_all
              | _ => simp_all [isWord]
      · exact (whole_apart_next c u known fun isWord => absurd isWord word).1
    · exact ih later
/-- Whether a token is white space. -/
def isSpace : Token → Bool
  | .space _ => true
  | _ => false

/-- Runs of white space are not divided. -/
def Spaced (t u : Token) : Prop := ¬ (isSpace t ∧ isSpace u)

/-- White space that is read starts with white space, and the rest does not. -/
theorem isBlank_of_next_space {c : Char} {t : Text} (space : isSpace (next c t).1) :
    Text.isBlank c ∧ ∀ d ∈ (next c t).2.head?, Text.isBlank d = false := by
  cases same : (next c t).1 with
  | space w =>
    have read := whole_apart_next c t (by rw [same]; rfl) (by rw [same]; rintro ⟨⟩)
    have whole := (text_next c t).1
    rw [same] at read whole
    obtain ⟨⟨some_char, blank⟩, ends⟩ := read
    obtain ⟨d, w, rfl⟩ := List.exists_cons_of_ne_nil some_char
    obtain ⟨rfl, -⟩ := List.cons.inj whole
    exact ⟨blank d (by simp), ends⟩
  | _ => simp [same, isSpace] at space

/-- White space is read as far as it goes. -/
theorem spaced_tokens (formula : Text) : (tokens formula).IsChain Spaced := by
  fun_induction tokens formula with
  | case1 => simp
  | case2 c t ih =>
    rw [List.isChain_cons]
    refine ⟨?_, ih⟩
    rintro u head ⟨first, second⟩
    cases behind : (next c t).2 with
    | nil => simp [behind, tokens] at head
    | cons d v =>
      rw [behind, tokens, List.head?_cons, Option.mem_def, Option.some.injEq] at head
      subst head
      have noBlank := (isBlank_of_next_space first).2 d (by simp [behind])
      rw [(isBlank_of_next_space second).1] at noBlank
      cases noBlank

/-! ## Other literals and references -/

/-- The literals and the references that take the place of others. -/
structure Change where
  literal : Text → Text
  ref : Ref → Ref

/-- Other literals, and the same references. -/
def Change.literals (f : Text → Text) : Change := ⟨f, fun r => r⟩

/-- Other references, and the same literals. -/
def Change.refs (f : Ref → Ref) : Change := ⟨fun w => w, f⟩

@[simp] theorem Change.literal_literals (f : Text → Text) (w : Text) :
    (literals f).literal w = f w := rfl

@[simp] theorem Change.ref_literals (f : Text → Text) (r : Ref) : (literals f).ref r = r := rfl

@[simp] theorem Change.ref_refs (f : Ref → Ref) (r : Ref) : (refs f).ref r = f r := rfl

/-- One change after another. -/
def Change.comp (d c : Change) : Change := ⟨d.literal ∘ c.literal, d.ref ∘ c.ref⟩

/-- The same token, with another literal or reference if it is one. -/
def map (c : Change) : Token → Token
  | .string w => .string (c.literal w)
  | .ref r => .ref (c.ref r)
  | t => t

/-- Whether every change keeps a token. -/
def isFixed : Token → Bool
  | .string _ | .ref _ => false
  | _ => true

section Change

variable {c d : Change} {t u : Token} {ts us : List Token}

theorem map_map (t : Token) : (t.map c).map d = t.map (d.comp c) := by
  cases t <;> rfl

theorem eq_of_map (same : t.map c = u) (fixed : isFixed u) : t = u := by
  cases t with
  | string => exact absurd (same ▸ fixed) (by simp [map, isFixed])
  | ref => exact absurd (same ▸ fixed) (by simp [map, isFixed])
  | _ => exact same

theorem exists_of_map {r : Ref} (same : t.map c = .ref r) : ∃ r', t = .ref r' ∧ c.ref r' = r := by
  cases t with
  | ref r' => exact ⟨r', rfl, Token.ref.inj same⟩
  | _ => cases same

theorem exists_of_map_cons (same : ts.map (map c) = u :: us) (fixed : isFixed u) :
    ∃ vs, ts = u :: vs ∧ vs.map (map c) = us := by
  obtain ⟨t, vs, rfl, first, rest⟩ := List.map_eq_cons_iff.1 same
  exact ⟨vs, by rw [eq_of_map first fixed], rest⟩

end Change

end CellGraph.Token
