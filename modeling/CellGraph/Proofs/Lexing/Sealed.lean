import CellGraph.Proofs.Lexing.Quotes

/-!
# Sealed tokens

Tokens are sealed if each quote mark among them belongs to a literal that is closed or to the sheet
of a reference, and none of these goes on behind its end. When the text of sealed tokens is read
again, plain text may be cut in other places, but what is quoted comes back as it was
(`tokens_of_sealed`). So it does not matter what the literals hold: with other literals the tokens
that are read are the same but for these literals (`tokens_map`).
-/

namespace CellGraph

open Text (Unquoted Quoted isQuoteMark)

theorem SheetName.bareChar_of_isBare {name : Text} (bare : isBare name) :
    ∀ c ∈ name, isBareChar c := by
  cases name with
  | nil => simp
  | cons c name =>
    simp only [isBare, Bool.and_eq_true, List.all_eq_true] at bare
    exact List.forall_mem_cons.2 ⟨by simp [isBareChar, bare.1], bare.2⟩

/-- The texts of plain references have no quote marks. -/
theorem Ref.Formed.unquoted {r : Ref} (formed : r.Formed) (plain : r.text.head? ≠ some '\'') :
    Unquoted r.text := by
  have inAddress : ∀ {written address : Text}, IsAddress written address → Unquoted written := by
    intro written address shape
    have marks : Text.Excludes fun c => c == '$' || c.isUpper || c.isDigit := by
      constructor <;> decide
    refine Text.unquoted_of_forall marks fun c member => ?_
    rcases shape.mem_written member with dollar | capital | digit
    · simp [dollar]
    · simp [capital]
    · simp [digit]
  cases formed with
  | here shape => exact inAddress shape
  | there sheet shape =>
    cases sheet with
    | quoted => exact absurd rfl plain
    | bare bare =>
      have marks : Text.Excludes SheetName.isBareChar := by constructor <;> decide
      have named := Text.unquoted_of_forall marks (SheetName.bareChar_of_isBare bare)
      exact List.forall_mem_append.2 ⟨named, List.forall_mem_cons.2 ⟨rfl, inAddress shape⟩⟩

namespace Token

/-! ## What is sealed -/

/-- The literal with a content. -/
def literal (x : Text) : Text := '"' :: (x ++ ['"'])

/-- A text that is a literal with both its quotes. -/
def IsLiteral (w : Text) : Prop := ∃ body, w = '"' :: body ∧ isClosed body

/-- Whether a token starts with a quote mark that belongs to it: literals, and references to
a sheet whose name stands in quotes. -/
def isQuoted : Token → Bool
  | .string _ => true
  | .ref r => r.text.head? == some '\''
  | _ => false

/-- A token whose quote marks are its own and end with it where a text follows. -/
def Seals : Token → Text → Prop
  | .string w, rest => IsLiteral w ∧ rest.head? ≠ some '"'
  | .ref r, rest => r.Formed ∧ (r.text.head? = some '\'' → Ref.continues rest = false)
  | t, _ => Unquoted t.text

/-- Tokens of which each one is sealed in front of those behind it and of a text. -/
def Sealed : List Token → Text → Prop
  | [], _ => True
  | t :: ts, rest => Seals t (texts ts ++ rest) ∧ Sealed ts rest

variable {t : Token} {ts us : List Token} {rest rest' u w x : Text}

theorem sealed_append : Sealed (ts ++ us) rest ↔ Sealed ts (texts us ++ rest) ∧ Sealed us rest := by
  induction ts with
  | nil => simp [Sealed]
  | cons t ts ih => simp [Sealed, ih, and_assoc]

/-- A text in front of which all tokens are sealed that are sealed in front of another. -/
def Milder (rest rest' : Text) : Prop :=
  (rest'.head? = some '"' → rest.head? = some '"') ∧
    (Ref.continues rest' → Ref.continues rest)

theorem Seals.mono (milder : Milder rest rest') (seals : Seals t rest) : Seals t rest' := by
  cases t with
  | string w => exact ⟨seals.1, fun head => seals.2 (milder.1 head)⟩
  | ref r =>
    refine ⟨seals.1, fun quoted => Bool.eq_false_iff.2 fun more => ?_⟩
    have goesOn := milder.2 more
    rw [seals.2 quoted] at goesOn
    cases goesOn
  | _ => exact seals

theorem Milder.append (milder : Milder rest rest') (t : Text) : Milder (t ++ rest) (t ++ rest') := by
  cases t with
  | nil => exact milder
  | cons c t => exact ⟨id, id⟩

theorem Sealed.mono (milder : Milder rest rest') (isSealed : Sealed ts rest) : Sealed ts rest' := by
  induction ts with
  | nil => trivial
  | cons t ts ih => exact ⟨isSealed.1.mono (milder.append _), ih isSealed.2⟩

theorem milder_nil (rest : Text) : Milder rest [] := by simp [Milder, Ref.continues]

/-- Sealed tokens are sealed where nothing follows. -/
theorem Sealed.alone (isSealed : Sealed ts rest) : Sealed ts [] := isSealed.mono (milder_nil rest)

theorem isLiteral_of_sealed (isSealed : Sealed ts rest) (member : .string w ∈ ts) : IsLiteral w := by
  obtain ⟨before, behind, rfl⟩ := List.append_of_mem member
  exact (sealed_append.1 isSealed).2.1.1

/-! ## Quoted and plain tokens -/

theorem unquoted_of_seals (seals : Seals t rest) (plain : isQuoted t = false) :
    Unquoted t.text := by
  cases t with
  | string w => cases plain
  | ref r => exact seals.1.unquoted (by simpa [isQuoted] using plain)
  | _ => exact seals

theorem head_of_seals (seals : Seals t rest) (quoted : isQuoted t) (more : Text) :
    Quoted (t.text ++ more) := by
  cases t with
  | string w =>
    obtain ⟨⟨body, rfl, -⟩, -⟩ := seals
    rintro c ⟨⟩
    rfl
  | ref r =>
    have head : r.text.head? = some '\'' := by simpa [isQuoted] using quoted
    obtain ⟨name, start⟩ := List.head?_eq_some_iff.1 head
    rw [text, start]
    rintro c ⟨⟩
    rfl
  | _ => cases quoted

/-- What is quoted is read back. -/
theorem tokens_of_seals (seals : Seals t rest) (quoted : isQuoted t) :
    tokens (t.text ++ rest) = t :: tokens rest := by
  obtain ⟨whole, apart⟩ : Whole t ∧ Apart t rest := by
    cases t with
    | string w =>
      obtain ⟨⟨body, rfl, closed⟩, ends⟩ := seals
      have again : literalBody (body ++ []) = (body, []) :=
        literalBody_append_of_isClosed closed (by simp)
      rw [List.append_nil] at again
      exact ⟨⟨body, rfl, again⟩, .inr ⟨closed, ends⟩⟩
    | ref r => exact ⟨seals.1, seals.2 (by simpa [isQuoted] using quoted)⟩
    | _ => cases quoted
  obtain ⟨c, u, start, read⟩ := next_text whole apart
  rw [start, List.cons_append, tokens, read]

/-- The tokens of a text without quote marks have none. -/
theorem unquoted_of_mem_tokens (plain : Unquoted u) (member : t ∈ tokens u) : Unquoted t.text := by
  intro c inside
  refine plain c ?_
  rw [← texts_tokens u]
  exact List.mem_flatMap.2 ⟨t, member, inside⟩

theorem ne_string_of_mem_tokens (plain : Unquoted u) (member : t ∈ tokens u) (w : Text) :
    t ≠ .string w := by
  rintro rfl
  obtain ⟨body, rfl, -⟩ := whole_of_mem_tokens member rfl (by simp)
  exact absurd (unquoted_of_mem_tokens plain member '"' (by simp [text])) (by decide)

/-- Plain text is sealed in front of any text. -/
theorem seals_of_mem_tokens (plain : Unquoted u) (member : t ∈ tokens u) (rest : Text) :
    Seals t rest := by
  have unquoted := unquoted_of_mem_tokens plain member
  cases t with
  | string w => exact absurd rfl (ne_string_of_mem_tokens plain member w)
  | ref r =>
    refine ⟨whole_of_mem_tokens member rfl (by simp), fun head => ?_⟩
    exact absurd (unquoted '\'' (List.mem_of_mem_head? head)) (by decide)
  | _ => exact unquoted

theorem sealed_of_forall (each : ∀ t ∈ ts, ∀ rest, Seals t rest) (rest : Text) :
    Sealed ts rest := by
  induction ts with
  | nil => trivial
  | cons t ts ih =>
    rw [List.forall_mem_cons] at each
    exact ⟨each.1 _, ih each.2⟩

theorem sealed_tokens (plain : Unquoted u) (rest : Text) : Sealed (tokens u) rest :=
  sealed_of_forall (fun _ member rest => seals_of_mem_tokens plain member rest) rest

/-! ## Reading again -/

/-- Tokens of which the plain ones are read again, run by run; a text stands in front of them. -/
def relex : Text → List Token → List Token
  | u, [] => tokens u
  | u, t :: ts => if isQuoted t then tokens u ++ t :: relex [] ts else relex (u ++ t.text) ts

/-- Sealed tokens are read run by run, whatever quote mark stands behind them. -/
theorem tokens_append_of_sealed (isSealed : Sealed ts rest) (quoted : Quoted rest)
    (plain : Unquoted u) : tokens (u ++ texts ts ++ rest) = relex u ts ++ tokens rest := by
  induction ts generalizing u with
  | nil => simpa [relex] using tokens_append_of_plain plain quoted
  | cons t ts ih =>
    obtain ⟨seals, behind⟩ := isSealed
    unfold relex
    split
    · next isQuoted =>
      have start := head_of_seals seals isQuoted (texts ts ++ rest)
      have inner := ih (u := []) behind (by simp [Unquoted])
      rw [List.nil_append] at inner
      rw [texts_cons, List.append_assoc, List.append_assoc, tokens_append_of_plain plain start,
        tokens_of_seals seals isQuoted, inner, List.append_assoc, List.cons_append]
    · next notQuoted =>
      have own := unquoted_of_seals seals (by simpa using notQuoted)
      have plain' : Unquoted (u ++ t.text) := List.forall_mem_append.2 ⟨plain, own⟩
      rw [← ih behind plain', texts_cons, List.append_assoc, List.append_assoc, List.append_assoc,
        List.append_assoc]

theorem tokens_of_sealed (isSealed : Sealed ts []) : tokens (texts ts) = relex [] ts := by
  have read := tokens_append_of_sealed (u := []) isSealed (by simp [Quoted]) (by simp [Unquoted])
  simpa [tokens] using read

theorem texts_relex (isSealed : Sealed ts rest) : texts (relex u ts) = u ++ texts ts := by
  induction ts generalizing u with
  | nil => simp [relex, texts_tokens]
  | cons t ts ih =>
    unfold relex
    split
    · simp [texts_tokens, ih isSealed.2]
    · simp [ih isSealed.2]

/-- What is read again is sealed where the tokens were. -/
theorem sealed_relex (isSealed : Sealed ts rest) (plain : Unquoted u) :
    Sealed (relex u ts) rest := by
  induction ts generalizing u with
  | nil => exact sealed_tokens plain rest
  | cons t ts ih =>
    obtain ⟨seals, behind⟩ := isSealed
    unfold relex
    split
    · refine sealed_append.2 ⟨sealed_tokens plain _, ?_, ih behind (by simp [Unquoted])⟩
      rwa [texts_relex behind, List.nil_append]
    · next notQuoted =>
      have own := unquoted_of_seals seals (by simpa using notQuoted)
      exact ih behind (List.forall_mem_append.2 ⟨plain, own⟩)

theorem string_mem_relex (member : .string w ∈ ts) (u : Text) : .string w ∈ relex u ts := by
  induction ts generalizing u with
  | nil => simp at member
  | cons t ts ih =>
    unfold relex
    rcases List.mem_cons.1 member with rfl | behind
    · simp [isQuoted]
    · split
      · simp [ih behind]
      · exact ih behind _

/-! ## Other literals -/

/-- A change that trades literals for literals. -/
def Trades (f : Text → Text) : Prop := ∀ w, f w = w ∨ IsLiteral w ∧ IsLiteral (f w)

variable {f : Text → Text}

theorem Trades.isLiteral (trades : Trades f) (isLiteral : IsLiteral w) : IsLiteral (f w) := by
  rcases trades w with same | ⟨-, traded⟩
  · rwa [same]
  · exact traded

theorem isQuoted_map (t : Token) : isQuoted (t.map (.literals f)) = isQuoted t := by
  cases t <;> rfl

theorem map_literals_of_plain (plain : isQuoted t = false) : t.map (.literals f) = t := by
  cases t with
  | string w => cases plain
  | _ => rfl

theorem map_tokens_of_plain (plain : Unquoted u) : (tokens u).map (map (.literals f)) = tokens u := by
  rw [List.map_congr_left (g := id), List.map_id]
  intro t member
  cases t with
  | string w => exact absurd rfl (ne_string_of_mem_tokens plain member w)
  | _ => rfl

/-- Other literals are read run by run like these. -/
theorem relex_map (isSealed : Sealed ts rest) (plain : Unquoted u) :
    relex u (ts.map (map (.literals f))) = (relex u ts).map (map (.literals f)) := by
  induction ts generalizing u with
  | nil => exact (map_tokens_of_plain plain).symm
  | cons t ts ih =>
    obtain ⟨seals, behind⟩ := isSealed
    rw [List.map_cons, relex, relex, isQuoted_map]
    split
    · rw [ih behind (by simp [Unquoted]), List.map_append, List.map_cons, map_tokens_of_plain plain]
    · next notQuoted =>
      have notQuoted : isQuoted t = false := by simpa using notQuoted
      have own := unquoted_of_seals seals notQuoted
      rw [map_literals_of_plain notQuoted]
      exact ih behind (List.forall_mem_append.2 ⟨plain, own⟩)

/-- A text of tokens starts as it did with other literals. -/
theorem head?_texts_map (trades : Trades f) (ts : List Token) (rest : Text) :
    (texts (ts.map (map (.literals f))) ++ rest).head? = (texts ts ++ rest).head? := by
  have start : ∀ {w}, IsLiteral w → ∀ more : Text, (w ++ more).head? = some '"' := by
    rintro _ ⟨body, rfl, -⟩ more
    rfl
  have unchanged : ∀ t : Token, t.map (.literals f) = t ∨ ∃ w, t = .string w ∧ IsLiteral w ∧
      IsLiteral (f w) := by
    intro t
    cases t with
    | string w =>
      rcases trades w with same | ⟨isLiteral, traded⟩
      · exact .inl (congrArg string same)
      · exact .inr ⟨w, rfl, isLiteral, traded⟩
    | _ => exact .inl rfl
  induction ts with
  | nil => rfl
  | cons t ts ih =>
    rw [List.map_cons, texts_cons, texts_cons, List.append_assoc, List.append_assoc]
    rcases unchanged t with same | ⟨w, rfl, isLiteral, traded⟩
    · rw [same, List.head?_append, ih, ← List.head?_append]
    · rw [map, text, text, Change.literals, start isLiteral, start traded]

theorem milder_of_head? (same : rest'.head? = rest.head?) : Milder rest rest' := by
  refine ⟨fun head => by rwa [← same], fun more => ?_⟩
  cases rest' with
  | nil => cases more
  | cons c t =>
    obtain ⟨t', rfl⟩ := List.head?_eq_some_iff.1 same.symm
    exact more

theorem sealed_map (trades : Trades f) (isSealed : Sealed ts rest) :
    Sealed (ts.map (map (.literals f))) rest := by
  induction ts with
  | nil => trivial
  | cons t ts ih =>
    obtain ⟨seals, behind⟩ := isSealed
    refine ⟨?_, ih behind⟩
    have seals' := seals.mono (milder_of_head? (head?_texts_map trades ts rest))
    cases t with
    | string w => exact ⟨trades.isLiteral seals'.1, seals'.2⟩
    | _ => exact seals'

/-- What is read again with other literals is the same but for these. -/
theorem tokens_map (trades : Trades f) (isSealed : Sealed ts []) :
    tokens (texts (ts.map (map (.literals f)))) = (tokens (texts ts)).map (map (.literals f)) := by
  rw [tokens_of_sealed isSealed, tokens_of_sealed (sealed_map trades isSealed),
    relex_map isSealed (by simp [Unquoted])]

/-! ## Tokens in the place of others -/

/-- Tokens that may take the place of others: they are sealed where these were, what stands in
front of them stays sealed, and no literal is lost. -/
structure Fills (ts us : List Token) : Prop where
  isSealed : ∀ rest, Sealed ts rest → Sealed us rest
  milder : ∀ rest, Milder (texts ts ++ rest) (texts us ++ rest)
  literals : Sealed ts [] → ∀ w, .string w ∈ ts → .string w ∈ us

variable {ts' us' vs : List Token}

theorem Fills.refl (ts : List Token) : Fills ts ts :=
  ⟨fun _ => id, fun _ => ⟨id, id⟩, fun _ _ => id⟩

theorem Fills.trans (first : Fills ts us) (second : Fills us vs) : Fills ts vs where
  isSealed rest given := second.isSealed rest (first.isSealed rest given)
  milder rest := ⟨(first.milder rest).1 ∘ (second.milder rest).1,
    (first.milder rest).2 ∘ (second.milder rest).2⟩
  literals given w := second.literals (first.isSealed [] given) w ∘ first.literals given w

theorem Fills.append (first : Fills ts us) (second : Fills ts' us') :
    Fills (ts ++ ts') (us ++ us') where
  isSealed rest given := by
    obtain ⟨front, behind⟩ := sealed_append.1 given
    exact sealed_append.2 ⟨first.isSealed _ (front.mono (second.milder rest)),
      second.isSealed rest behind⟩
  milder rest := by
    have front := first.milder (texts ts' ++ rest)
    have behind := (second.milder rest).append (texts us)
    simp only [texts_append, List.append_assoc]
    exact ⟨front.1 ∘ behind.1, front.2 ∘ behind.2⟩
  literals given w member := by
    obtain ⟨front, behind⟩ := sealed_append.1 given
    rcases List.mem_append.1 member with inFront | isBehind
    · exact List.mem_append_left _ (first.literals front.alone w inFront)
    · exact List.mem_append_right _ (second.literals behind w isBehind)

theorem Fills.cons (t : Token) (behind : Fills ts us) : Fills (t :: ts) (t :: us) :=
  (Fills.refl [t]).append behind

theorem continues_append {t : Text} (goesOn : Ref.continues t) (u : Text) :
    Ref.continues (t ++ u) := by
  cases t with
  | nil => cases goesOn
  | cons c t => exact goesOn

/-- A plain token may take the place of tokens that go on a word and hold no literal. -/
theorem fills_plain (seals : ∀ rest, Seals t rest) (plain : isQuoted t = false)
    (some_char : t.text ≠ []) (goesOn : Ref.continues (texts ts))
    (noString : ∀ w, .string w ∉ ts) : Fills ts [t] where
  isSealed rest _ := ⟨seals _, trivial⟩
  milder rest := by
    obtain ⟨c, u, start⟩ := List.exists_cons_of_ne_nil some_char
    have own := unquoted_of_seals (seals []) plain c (by simp [start])
    refine ⟨?_, fun _ => continues_append goesOn rest⟩
    rw [texts_cons, start]
    rintro ⟨⟩
    cases own
  literals _ w member := absurd member (noString w)

/-! ## Sealed formulas -/

/-- What begins with a character of a word and goes on with such characters has no quote marks. -/
theorem unquoted_word {c : Char} {u : Text} (start : isNameStart c ∨ c = '\\')
    (inside : ∀ d ∈ u, SheetName.isBareChar d) : Unquoted (c :: u) := by
  have bare : Text.Excludes SheetName.isBareChar := by constructor <;> decide
  refine List.forall_mem_cons.2 ⟨?_, Text.unquoted_of_forall bare inside⟩
  rcases start with letter | rfl
  · exact Text.unquoted_of_forall (t := [c]) (p := isNameStart) (by constructor <;> decide)
      (by simpa using letter) c (by simp)
  · decide

theorem unquoted_of_plain {t : Text} (plain : ∀ c ∈ t, Plain c) : Unquoted t := by
  intro c member
  have own := plain c member
  simp [isQuoteMark, own.noLiteral, own.noQuote]

theorem unquoted_number {w : Text} (whole : Whole (.number w)) : Unquoted w := by
  obtain ⟨l, formed, rfl⟩ := whole
  have marks : Text.Excludes fun c => c.isDigit || Literal.isMark c := by constructor <;> decide
  refine Text.unquoted_of_forall marks fun c member => ?_
  rw [Bool.or_eq_true]
  exact formed.mem_text member

/-- A token that is read is sealed, unless it is a single quote or a literal without closing
quote. -/
theorem seals_next {c : Char} {u : Text} (noQuote : (next c u).1 ≠ .other '\'')
    (closed : ∀ w, (next c u).1 = .string w → IsLiteral w) :
    Seals (next c u).1 (next c u).2 := by
  have read : isOther (next c u).1 = false → isWord (next c u).1 = false →
      Whole (next c u).1 ∧ Apart (next c u).1 (next c u).2 :=
    fun known noWord => whole_apart_next c u known (by simp [noWord])
  cases same : (next c u).1 with
  | string w =>
    rw [same] at read
    refine ⟨closed w same, ?_⟩
    rcases (read rfl rfl).2 with nothing | ends
    · simp [nothing]
    · exact ends.2
  | ref r =>
    obtain ⟨formed, ends⟩ := formed_of_next same
    exact ⟨formed, fun _ => ends⟩
  | number w =>
    obtain ⟨l, formed, rfl, -⟩ := exists_of_next_number same
    exact unquoted_number ⟨l, formed, rfl⟩
  | func w =>
    rw [same] at read
    obtain ⟨c, v, rfl, start, inside⟩ := (read rfl rfl).1
    exact unquoted_word (.inl start) inside
  | name w =>
    obtain ⟨-, -, ⟨l, rest, -, isNumber⟩ | ⟨-, isPlain⟩⟩ :=
      next_cases (c := c) (t := u) (by simp [same]) (by simp [same])
    · rw [isNumber] at same
      cases same
    · rw [isPlain] at same
      obtain ⟨start, rfl, -⟩ := nextPlain_name (Prod.ext same rfl : nextPlain c u = (.name w, _))
      exact unquoted_word (by simpa using start) (Text.takeWhile_inside u)
  | op w =>
    rw [same] at read
    exact unquoted_of_plain fun _ member => plain_of_mem_op (read rfl rfl).1 member
  | space w =>
    rw [same] at read
    exact unquoted_of_plain fun d member => plain_of_isBlank ((read rfl rfl).1.2 d member)
  | other d =>
    obtain ⟨isOther, -⟩ := next_other same
    obtain ⟨noLiteral, -⟩ := next_cases (c := c) (t := u) (by simp [same]) (by simp [same])
    rw [isOther] at same noQuote
    cases same
    have noName : c ≠ '\'' := by
      rintro rfl
      exact noQuote rfl
    exact List.forall_mem_singleton.2 (by simp [isQuoteMark, noLiteral, noName])
  | lparen => exact (by decide : Unquoted ['('])
  | rparen => exact (by decide : Unquoted [')'])
  | comma => exact (by decide : Unquoted [','])
  | colon => exact (by decide : Unquoted [':'])

variable {formula : Text}

/-- The tokens of a formula are sealed up to where the first single quote or the first literal
without closing quote stands. -/
theorem sealed_of_tokens (read : tokens formula = ts ++ us) (noQuote : .other '\'' ∉ ts)
    (closed : ∀ w, .string w ∈ ts → IsLiteral w) : Sealed ts (texts us) := by
  induction ts generalizing formula with
  | nil => trivial
  | cons t ts ih =>
    obtain ⟨c, u, first, again⟩ : ∃ c u, next c u = (t, texts (ts ++ us)) ∧
        tokens (texts (ts ++ us)) = ts ++ us := by
      rw [← List.nil_append (t :: ts ++ us), List.cons_append] at read
      exact exists_next read
    rw [List.mem_cons, not_or] at noQuote
    have own := seals_next (c := c) (u := u)
    simp only [first, texts_append] at own
    exact ⟨own (Ne.symm noQuote.1) fun w isString => closed w (by simp [isString]),
      ih again noQuote.2 fun w member => closed w (by simp [member])⟩

/-- A literal with a token behind it has its closing quote. -/
theorem isLiteral_of_tokens (read : tokens formula = ts ++ t :: us) (member : .string w ∈ ts) :
    IsLiteral w := by
  obtain ⟨before, behind, rfl⟩ := List.append_of_mem member
  rw [List.append_assoc, List.cons_append] at read
  obtain ⟨c, u, first, again⟩ := exists_next read
  have parted := whole_apart_next c u (by rw [first]; rfl) (by rw [first]; rintro ⟨⟩)
  simp only [first] at parted
  obtain ⟨⟨body, rfl, -⟩, nothing | ends⟩ := parted
  · rw [nothing, tokens] at again
    simp at again
  · exact ⟨body, rfl, ends.1⟩

theorem isClosed_append (free : '"' ∉ x) : isClosed (x ++ ['"']) := by
  induction x with
  | nil => rfl
  | cons c x ih =>
    obtain ⟨other, later⟩ := not_or.1 (List.mem_cons.not.1 free)
    rw [List.cons_append, isClosed.eq_3 _ _ fun _ same _ => other same.symm, if_neg (Ne.symm other)]
    exact ih later

theorem isLiteral_literal (free : '"' ∉ x) : IsLiteral (literal x) :=
  ⟨x ++ ['"'], rfl, isClosed_append free⟩

/-- If a literal is read between two texts, both texts are read by themselves, and so is any other
literal in its place. -/
theorem tokens_around {p q y : Text}
    (read : tokens (p ++ literal x ++ q) = ts ++ .string (literal x) :: us) (place : texts ts = p)
    (noQuote : .other '\'' ∉ ts) (free : '"' ∉ y) :
    tokens (p ++ literal y ++ q) = tokens p ++ .string (literal y) :: tokens q := by
  have whole := texts_tokens (p ++ literal x ++ q)
  rw [read, texts_append, place, texts_cons, List.append_assoc] at whole
  obtain rfl : texts us = q := List.append_cancel_left (List.append_cancel_left whole)
  -- what stands in front is sealed, so it does not look into the literal
  have front : Sealed ts (literal x ++ texts us) :=
    sealed_of_tokens read noQuote fun w member => isLiteral_of_tokens read member
  have same : (literal y ++ texts us).head? = (literal x ++ texts us).head? := rfl
  have front' : Sealed ts (literal y ++ texts us) := front.mono (milder_of_head? same)
  have ends : (texts us).head? ≠ some '"' := by
    obtain ⟨c, u, first, -⟩ := exists_next read
    have parted := whole_apart_next c u (by rw [first]; rfl) (by rw [first]; rintro ⟨⟩)
    simp only [first] at parted
    rcases parted.2 with nothing | closed
    · simp [nothing]
    · exact closed.2
  have own : tokens (literal y ++ texts us) = .string (literal y) :: tokens (texts us) :=
    tokens_of_seals (t := .string (literal y)) ⟨isLiteral_literal free, ends⟩ rfl
  have quoted : Quoted (literal y ++ texts us) := by
    rintro _ ⟨⟩
    rfl
  have again := tokens_append_of_sealed (u := []) front' quoted (by decide)
  rw [List.nil_append, place, ← tokens_of_sealed front'.alone, place, own] at again
  rw [List.append_assoc, again]

end Token
end CellGraph
