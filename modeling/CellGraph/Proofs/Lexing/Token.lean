import CellGraph.Proofs.Lexing.Reference

/-!
# Tokens in front of a text

Which texts the tokens of each class have (`Token.Whole`), and in front of which texts a token
ends (`Token.Apart`), which is a matter of the next character alone. Tokens that are whole and
apart are read back one by one: `tokens_texts_append`.
-/

namespace CellGraph.Token

/-! ## The shape of tokens -/

/-- Whether a literal, given without its opening quote, ends with its closing quote. -/
def isClosed : Text → Bool
  | [] => false
  | '"' :: '"' :: t => isClosed t
  | c :: t => if c = '"' then t = [] else isClosed t

/-- The texts of each class of tokens. A name must not be an address; single characters that
belong to no class are left out. -/
def Whole : Token → Prop
  | .string t => ∃ body, t = '"' :: body ∧ literalBody body = (body, [])
  | .ref r => r.Formed
  | .number t => ∃ l : Literal, l.Formed ∧ t = l.text
  | .func t => ∃ c u, t = c :: u ∧ isNameStart c ∧ ∀ d ∈ u, SheetName.isBareChar d
  | .name t => ∃ c u, t = c :: u ∧ (isNameStart c ∨ c = '\\') ∧
      (∀ d ∈ u, SheetName.isBareChar d) ∧ Ref.scanAddress? t = none
  | .op t => scanOperator? t = some (t, [])
  | .space t => t ≠ [] ∧ ∀ c ∈ t, Text.isBlank c
  | .other _ => False
  | _ => True

/-- Whether a token ends where a text follows. -/
def Apart : Token → Text → Prop
  | .string t, rest => rest = [] ∨ isClosed t.tail ∧ rest.head? ≠ some '"'
  | .ref _, rest | .number _, rest => Ref.continues rest = false
  | .func _, rest => rest.head? = some '('
  | .name _, rest => Ref.continues rest = false ∧ rest.head? ≠ some '$'
  | .op t, rest => ∀ c ∈ rest.head?, (t = ['<'] → c ≠ '>' ∧ c ≠ '=') ∧ (t = ['>'] → c ≠ '=')
  | .space _, rest => ∀ c ∈ rest.head?, Text.isBlank c = false
  | _, _ => True

/-! ## Literals -/

theorem literalBody_append_of_isClosed {body rest : Text} (closed : isClosed body)
    (ends : rest.head? ≠ some '"') : literalBody (body ++ rest) = (body, rest) := by
  fun_induction isClosed body with
  | case1 => simp at closed
  | case2 t ih => simp [literalBody, ih closed]
  | case3 t notPair =>
    obtain rfl : t = [] := by simpa using closed
    cases rest with
    | nil => rfl
    | cons d rest =>
      have noQuote : d ≠ '"' := by simpa using ends
      rw [List.singleton_append, literalBody.eq_3 _ _ (by rintro u - same; simp_all)]
      simp
  | case4 c t notPair notQuote ih =>
    rw [List.cons_append, literalBody.eq_3 _ _ (by rintro u same; exact absurd same notQuote)]
    simp [notQuote, ih closed]

/-- A literal that is read is closed, or runs to the end. -/
theorem isClosed_of_literalBody {t body rest : Text} (h : literalBody t = (body, rest)) :
    literalBody body = (body, []) ∧ (rest = [] ∨ isClosed body ∧ rest.head? ≠ some '"') := by
  fun_induction literalBody t generalizing body rest with
  | case1 =>
    cases h
    exact ⟨rfl, .inl rfl⟩
  | case2 t body' rest' found ih =>
    cases h
    obtain ⟨again, ends⟩ := ih found
    refine ⟨by simp [literalBody, again], ?_⟩
    simpa [isClosed] using ends
  | case3 t notPair =>
    cases h
    refine ⟨rfl, ?_⟩
    cases t with
    | nil => exact .inl rfl
    | cons d t =>
      refine .inr ⟨rfl, ?_⟩
      simp only [List.head?_cons, ne_eq, Option.some.injEq]
      rintro rfl
      exact notPair t rfl rfl
  | case4 c t notPair notQuote body' rest' found ih =>
    cases h
    obtain ⟨again, ends⟩ := ih found
    have noPair : ∀ (u : Text), c = '"' → body' = '"' :: u → False :=
      fun _ same _ => notQuote same
    refine ⟨?_, ?_⟩
    · rw [literalBody.eq_3 _ _ noPair]
      simp [notQuote, again]
    · rw [isClosed.eq_3 _ _ noPair]
      simpa [notQuote] using ends

/-! ## Words and signs -/

/-- A text of one class of characters is an address as far as it is one, whatever follows. -/
theorem eq_of_scanAddress?_word {w rest written address rest' : Text}
    (word : ∀ d ∈ w, SheetName.isBareChar d) (stop : ∀ c ∈ rest.head?, SheetName.isBareChar c = false)
    (noMark : rest.head? ≠ some '$')
    (h : Ref.scanAddress? (w ++ rest) = some (written, address, rest')) :
    written = w ∧ rest' = rest := by
  obtain ⟨shape, whole, ends⟩ := Ref.isAddress_of_scanAddress? h
  rcases List.append_eq_append_iff.1 whole with ⟨more, longer, behind⟩ | ⟨more, shorter, behind⟩
  · cases more with
    | nil => exact ⟨by simpa using longer, by simpa using behind.symm⟩
    | cons d more =>
      -- the address would go on behind the word
      have head : rest.head? = some d := by simp [behind]
      have bare := stop d head
      rcases shape.mem_written (c := d) (by simp [longer]) with dollar | capital | digit
      · exact absurd (dollar ▸ head) noMark
      · simp [SheetName.isBareChar_of_isUpper capital] at bare
      · simp [SheetName.isBareChar_of_isDigit digit] at bare
  · cases more with
    | nil => exact ⟨by simpa using shorter.symm, by simpa using behind⟩
    | cons d more =>
      -- the word would go on behind the address
      have bare : SheetName.isBareChar d := word d (by simp [shorter])
      simp [behind, Ref.continues, bare] at ends

/-- Characters that start neither a literal, nor a reference, nor a number. -/
structure Plain (c : Char) : Prop where
  noLiteral : c ≠ '"'
  noQuote : c ≠ '\''
  noMark : c ≠ '$'
  noPoint : c ≠ '.'
  noWord : Text.isWordChar c = false

theorem Plain.not_upper {c : Char} (plain : Plain c) : c.isUpper = false := by
  rw [Bool.eq_false_iff]
  intro capital
  exact absurd (Text.isWordChar_of_isUpper capital) (by simp [plain.noWord])

theorem Plain.not_digit {c : Char} (plain : Plain c) : c.isDigit = false := by
  rw [Bool.eq_false_iff]
  intro digit
  exact absurd (Text.isWordChar_of_isDigit digit) (by simp [plain.noWord])

theorem isWordChar_of_isNameStart {c : Char} (start : isNameStart c) : Text.isWordChar c := by
  simp only [isNameStart, Bool.or_eq_true, beq_iff_eq] at start
  rw [Text.isWordChar_iff]
  rcases start with letter | line
  · exact .inl letter
  · exact .inr (.inr line)

theorem Plain.not_nameStart {c : Char} (plain : Plain c) : isNameStart c = false := by
  rw [Bool.eq_false_iff]
  intro start
  exact absurd (isWordChar_of_isNameStart start) (by simp [plain.noWord])

/-- No address starts with a character that is neither a dollar sign nor a capital. -/
theorem scanAddress?_eq_none {c : Char} (t : Text) (noMark : c ≠ '$') (small : c.isUpper = false) :
    Ref.scanAddress? (c :: t) = none := by
  cases found : Ref.scanAddress? (c :: t) with
  | none => rfl
  | some read =>
    obtain ⟨written, address, rest⟩ := read
    obtain ⟨shape, whole, -⟩ := Ref.isAddress_of_scanAddress? found
    obtain ⟨d, u, rfl, first⟩ := shape.head
    obtain rfl : c = d := (List.cons.inj whole).1
    rcases first with dollar | capital
    · exact absurd dollar noMark
    · simp [small] at capital

theorem scan?_of_plain {c : Char} (plain : Plain c) (t : Text) : Ref.scan? (c :: t) = none := by
  have noSheet : Ref.scanSheet? (c :: t) = none := by
    simp [Ref.scanSheet?, plain.noQuote, plain.noWord]
  have noAddress := scanAddress?_eq_none t plain.noMark plain.not_upper
  simp [Ref.scan?, Ref.scanOnSheet?, Ref.scanLocal?, noSheet, noAddress]

/-- No number starts with a character that is neither a digit nor a point. -/
theorem Literal.scan_eq_none {c : Char} (t : Text) (noDigit : c.isDigit = false)
    (noPoint : c ≠ '.') : Literal.scan Char.isDigit (c :: t) = none := by
  cases found : Literal.scan Char.isDigit (c :: t) with
  | none => rfl
  | some read =>
    obtain ⟨l, rest⟩ := read
    obtain ⟨d, u, start, first⟩ := (Literal.formed_of_scan found).head
    have whole := (Literal.eq_of_scan found).1
    rw [start] at whole
    obtain rfl : c = d := (List.cons.inj whole).1
    rcases first with digit | point
    · simp [noDigit] at digit
    · exact absurd point noPoint

theorem next_of_plain {c : Char} (plain : Plain c) (t : Text) : next c t = nextPlain c t := by
  simp [next, plain.noLiteral, scan?_of_plain plain t,
    Literal.scan_eq_none t plain.not_digit plain.noPoint]

/-- White space lies outside the visible ASCII characters. -/
theorem ne_of_isBlank {c d : Char} (blank : Text.isBlank c) (visible : 32 < d.toNat ∧ d.toNat < 133) :
    c ≠ d := by
  rintro rfl
  simp only [Text.isBlank, Bool.or_eq_true, Bool.and_eq_true, decide_eq_true_eq,
    beq_iff_eq] at blank
  omega

theorem plain_of_isBlank {c : Char} (blank : Text.isBlank c) : Plain c := by
  refine ⟨ne_of_isBlank blank (by decide), ne_of_isBlank blank (by decide),
    ne_of_isBlank blank (by decide), ne_of_isBlank blank (by decide), ?_⟩
  by_cases word : Text.isWordChar c
  · have bounds : 32 < c.toNat ∧ c.toNat < 133 := by
      rw [Text.isWordChar_iff, Text.isAlpha_iff, Text.isUpper_iff, Text.isLower_iff,
        Text.isDigit_iff] at word
      rcases word with letter | digit | rfl
      · omega
      · omega
      · decide
    exact absurd rfl (ne_of_isBlank blank bounds)
  · simpa using word

theorem plain_of_isOperator {c : Char} (operator : isOperator c) :
    Plain c ∧ c ≠ '\\' ∧ Text.isBlank c = false := by
  have same : ("-+*/^&=<>%" : Text) = ['-', '+', '*', '/', '^', '&', '=', '<', '>', '%'] := rfl
  have listed := List.contains_iff_mem.1 operator
  rw [same] at listed
  simp only [List.mem_cons, List.not_mem_nil, or_false] at listed
  rcases listed with rfl | rfl | rfl | rfl | rfl | rfl | rfl | rfl | rfl | rfl <;>
    exact ⟨⟨by decide, by decide, by decide, by decide, by decide⟩, by decide, by decide⟩

theorem scanOperator?_eq_none {c : Char} (t : Text) (h : isOperator c = false) :
    scanOperator? (c :: t) = none := by
  unfold scanOperator?
  split
  · next same => cases same; exact absurd h (by decide)
  · next same => cases same; exact absurd h (by decide)
  · next same => cases same; exact absurd h (by decide)
  · next same => cases same; simp [h]
  · rfl

/-- The two lengths of operators. -/
theorem operator_cases {t : Text} (h : scanOperator? t = some (t, [])) :
    t = ['<', '>'] ∨ t = ['<', '='] ∨ t = ['>', '='] ∨ ∃ c, t = [c] ∧ isOperator c := by
  unfold scanOperator? at h
  split at h
  · simp_all
  · simp_all
  · simp_all
  · split at h
    · simp_all
    · simp at h
  · simp at h

/-- An operator is read whole where it ends. -/
theorem scanOperator?_text {t rest : Text} (h : scanOperator? t = some (t, []))
    (apart : Apart (.op t) rest) : scanOperator? (t ++ rest) = some (t, rest) := by
  rcases operator_cases h with rfl | rfl | rfl | ⟨c, rfl, operator⟩
  · rfl
  · rfl
  · rfl
  · unfold scanOperator?
    split
    · next u same =>
      cases same
      exact absurd rfl ((apart '>' rfl).1 rfl).1
    · next u same =>
      cases same
      exact absurd rfl ((apart '=' rfl).1 rfl).2
    · next u same =>
      cases same
      exact absurd rfl ((apart '=' rfl).2 rfl)
    · next d u _ _ _ same =>
      cases same
      simp [operator]
    · next same => simp at same

/-- An operator that is read ends there. -/
theorem apart_of_scanOperator? {t operator rest : Text}
    (h : scanOperator? t = some (operator, rest)) :
    scanOperator? operator = some (operator, []) ∧ Apart (.op operator) rest := by
  unfold scanOperator? at h
  split at h
  · cases h
    exact ⟨rfl, by simp [Apart]⟩
  · cases h
    exact ⟨rfl, by simp [Apart]⟩
  · cases h
    exact ⟨rfl, by simp [Apart]⟩
  · next c u noPair noLess noMore =>
    split at h
    · next isOperator =>
      simp only [Option.some.injEq, Prod.mk.injEq] at h
      obtain ⟨rfl, rfl⟩ := h
      refine ⟨?_, ?_⟩
      · unfold scanOperator?
        simp [isOperator]
      · intro d member
        obtain ⟨v, rfl⟩ := List.head?_eq_some_iff.1 member
        refine ⟨fun less => ⟨?_, ?_⟩, fun more => ?_⟩
        · rintro rfl
          exact noPair v (List.cons.inj less).1 rfl
        · rintro rfl
          exact noLess v (List.cons.inj less).1 rfl
        · rintro rfl
          exact noMore v (List.cons.inj more).1 rfl
    · simp at h
  · simp at h

/-! ## Reading one token -/

/-- A word starts no number and no literal. -/
theorem nameStart_start {c : Char} (start : isNameStart c) :
    c ≠ '"' ∧ c ≠ '\'' ∧ c ≠ '.' ∧ c.isDigit = false ∧ SheetName.isBareChar c := by
  have bare : SheetName.isBareChar c := by
    simp [SheetName.isBareChar, isWordChar_of_isNameStart start]
  simp only [isNameStart, Bool.or_eq_true, beq_iff_eq] at start
  refine ⟨?_, ?_, ?_, ?_, bare⟩
  · rintro rfl
    exact absurd bare (by decide)
  · rintro rfl
    exact absurd bare (by decide)
  · rintro rfl
    revert start
    decide
  · rcases start with letter | rfl
    · by_cases digit : c.isDigit
      · rw [Text.isAlpha_iff, Text.isUpper_iff, Text.isLower_iff] at letter
        rw [Text.isDigit_iff] at digit
        omega
      · simpa using digit
    · decide

/-- A word that is no address is no reference either, wherever no exclamation mark follows. -/
theorem next_word {c : Char} {u rest : Text} (start : isNameStart c)
    (word : ∀ d ∈ u, SheetName.isBareChar d) (stop : ∀ d ∈ rest.head?, SheetName.isBareChar d = false)
    (noBang : rest.head? ≠ some '!') (noAddress : Ref.scanAddress? (c :: u ++ rest) = none) :
    next c (u ++ rest) = nextPlain c (u ++ rest) := by
  obtain ⟨noLiteral, noQuote, noPoint, noDigit, bare⟩ := nameStart_start start
  have whole : ∀ d ∈ c :: u, SheetName.isBareChar d := by
    intro d member
    rcases List.mem_cons.1 member with rfl | inside
    · exact bare
    · exact word d inside
  have plain : '!' ∉ c :: u := fun member => absurd (whole _ member) (by decide)
  have noSheet := Ref.scanSheet?_eq_none plain (by simpa using noQuote) (by simp) noBang stop
  simp only [List.cons_append] at noSheet noAddress
  have noRef : Ref.scan? (c :: (u ++ rest)) = none := by
    simp [Ref.scan?, Ref.scanOnSheet?, Ref.scanLocal?, noSheet, noAddress]
  simp [next, noLiteral, noRef, Literal.scan_eq_none (u ++ rest) noDigit noPoint]

theorem next_string {body rest : Text} (again : literalBody body = (body, []))
    (apart : rest = [] ∨ isClosed body ∧ rest.head? ≠ some '"') :
    next '"' (body ++ rest) = (.string ('"' :: body), rest) := by
  have read : literalBody (body ++ rest) = (body, rest) := by
    rcases apart with rfl | ⟨closed, ends⟩
    · simpa using again
    · exact literalBody_append_of_isClosed closed ends
  simp [next, read]

theorem next_ref {r : Ref} {rest : Text} (formed : r.Formed) (ends : Ref.continues rest = false) :
    ∃ c u, r.text = c :: u ∧ next c (u ++ rest) = (.ref r, rest) := by
  obtain ⟨c, u, start, first⟩ := formed.head
  have read := Ref.scan?_text formed ends
  refine ⟨c, u, start, ?_⟩
  have noLiteral : c ≠ '"' := by
    rintro rfl
    revert first
    decide
  rw [start, List.cons_append] at read
  simp [next, noLiteral, read]

/-- A number starts neither a reference nor a literal. -/
theorem number_start {c : Char} (first : c.isDigit ∨ c = '.') :
    c ≠ '\'' ∧ c ≠ '"' ∧ c ≠ '$' ∧ c.isUpper = false := by
  rcases first with digit | rfl
  · refine ⟨?_, ?_, ?_, ?_⟩
    · rintro rfl
      exact absurd digit (by decide)
    · rintro rfl
      exact absurd digit (by decide)
    · rintro rfl
      exact absurd digit (by decide)
    · by_cases capital : c.isUpper
      · exact absurd digit (Text.not_isDigit_of_isUpper capital)
      · simpa using capital
  · decide

theorem ends_of_continues {rest : Text} (ends : Ref.continues rest = false) :
    Literal.Ends rest := by
  intro d member
  have noWord := Ref.not_bare_of_continues ends d member
  refine ⟨Ref.not_digit_of_continues ends d member, ?_, ?_, ?_⟩ <;> rintro rfl <;>
    exact absurd noWord (by decide)

theorem next_number {l : Literal} {rest : Text} (formed : l.Formed)
    (ends : Ref.continues rest = false) :
    ∃ c u, l.text = c :: u ∧ next c (u ++ rest) = (.number l.text, rest) := by
  obtain ⟨c, u, start, first⟩ := formed.head
  obtain ⟨noQuote, noLiteral, noMark, small⟩ := number_start first
  have read := Literal.scan_text formed (ends_of_continues ends)
  have noSheet := Ref.scanSheet?_eq_none (formed.not_mem (by decide)) (by simpa [start] using noQuote)
    (by simp [start]) (Ref.ne_bang_of_continues ends) (Ref.not_bare_of_continues ends)
  rw [start, List.cons_append] at read noSheet
  have noAddress := scanAddress?_eq_none (u ++ rest) noMark small
  have noRef : Ref.scan? (c :: (u ++ rest)) = none := by
    simp [Ref.scan?, Ref.scanOnSheet?, Ref.scanLocal?, noSheet, noAddress]
  exact ⟨c, u, start, by simp [next, noLiteral, noRef, read]⟩

theorem bare_word {c : Char} {u : Text} (start : isNameStart c)
    (word : ∀ d ∈ u, SheetName.isBareChar d) : ∀ d ∈ c :: u, SheetName.isBareChar d := by
  intro d member
  rcases List.mem_cons.1 member with rfl | inside
  · exact (nameStart_start start).2.2.2.2
  · exact word d inside

/-- A word in front of a parenthesis is no address. -/
theorem next_func {c : Char} {u : Text} (start : isNameStart c)
    (word : ∀ d ∈ u, SheetName.isBareChar d) (rest : Text) :
    next c (u ++ '(' :: rest) = (.func (c :: u), '(' :: rest) := by
  have stop : ∀ d ∈ ('(' :: rest).head?, SheetName.isBareChar d = false := by
    rintro d ⟨⟩
    decide
  have noAddress : Ref.scanAddress? (c :: u ++ '(' :: rest) = none := by
    cases found : Ref.scanAddress? (c :: u ++ '(' :: rest) with
    | none => rfl
    | some read =>
      obtain ⟨written, address, rest'⟩ := read
      obtain ⟨-, rfl⟩ := eq_of_scanAddress?_word (bare_word start word) stop (by simp) found
      have ends := (Ref.isAddress_of_scanAddress? found).2.2
      simp [Ref.continues] at ends
  rw [next_word start word stop (by simp) noAddress]
  simp [nextPlain, start, Text.takeWhile_append_stop word stop, Text.dropWhile_append_stop word stop]

theorem next_name {c : Char} {u rest : Text} (start : isNameStart c ∨ c = '\\')
    (word : ∀ d ∈ u, SheetName.isBareChar d) (noAddress : Ref.scanAddress? (c :: u) = none)
    (ends : Ref.continues rest = false) (noMark : rest.head? ≠ some '$') :
    next c (u ++ rest) = (.name (c :: u), rest) := by
  have stop := Ref.not_bare_of_continues ends
  have noBracket : rest.head? ≠ some '(' := by
    intro head
    obtain ⟨tail, rfl⟩ := List.head?_eq_some_iff.1 head
    simp [Ref.continues] at ends
  have read : next c (u ++ rest) = nextPlain c (u ++ rest) := by
    rcases start with start | rfl
    · refine next_word start word stop (Ref.ne_bang_of_continues ends) ?_
      cases found : Ref.scanAddress? (c :: u ++ rest) with
      | none => rfl
      | some read =>
        obtain ⟨written, address, rest'⟩ := read
        obtain ⟨rfl, rfl⟩ := eq_of_scanAddress?_word (bare_word start word) stop noMark found
        have alone := Ref.scanAddress?_text (Ref.isAddress_of_scanAddress? found).1
          (show Ref.continues [] = false from rfl)
        rw [List.append_nil, noAddress] at alone
        cases alone
    · exact next_of_plain ⟨by decide, by decide, by decide, by decide, by decide⟩ _
  rw [read]
  have named : (isNameStart c || c == '\\') = true := by simpa using start
  simp [nextPlain, noBracket, named, Text.takeWhile_append_stop word stop,
    Text.dropWhile_append_stop word stop]

theorem next_operator {c : Char} {t operator rest : Text} (plain : Plain c) (noSlash : c ≠ '\\')
    (read : scanOperator? (c :: t) = some (operator, rest)) :
    next c t = (.op operator, rest) := by
  rw [next_of_plain plain]
  simp [nextPlain, plain.not_nameStart, noSlash, read]

/-- A plain character that starts neither a name nor an operator is a bracket, a comma, a colon,
starts white space, or stands alone. -/
theorem next_sign {c : Char} (plain : Plain c) (noSlash : c ≠ '\\')
    (noOperator : isOperator c = false) (t : Text) :
    next c t =
      if c = '(' then (.lparen, t)
      else if c = ')' then (.rparen, t)
      else if c = ',' then (.comma, t)
      else if c = ':' then (.colon, t)
      else if Text.isBlank c then
        (.space (c :: t.takeWhile Text.isBlank), t.dropWhile Text.isBlank)
      else (.other c, t) := by
  rw [next_of_plain plain]
  simp [nextPlain, plain.not_nameStart, noSlash, scanOperator?_eq_none t noOperator]

theorem next_op {t rest : Text} (whole : scanOperator? t = some (t, []))
    (apart : Apart (.op t) rest) :
    ∃ c u, t = c :: u ∧ next c (u ++ rest) = (.op t, rest) := by
  have read := scanOperator?_text whole apart
  have start : ∃ c u, t = c :: u ∧ isOperator c := by
    rcases operator_cases whole with rfl | rfl | rfl | ⟨c, rfl, operator⟩
    · exact ⟨'<', _, rfl, rfl⟩
    · exact ⟨'<', _, rfl, rfl⟩
    · exact ⟨'>', _, rfl, rfl⟩
    · exact ⟨c, _, rfl, operator⟩
  obtain ⟨c, u, rfl, operator⟩ := start
  obtain ⟨plain, noSlash, -⟩ := plain_of_isOperator operator
  exact ⟨c, u, rfl, next_operator plain noSlash read⟩

theorem next_space {c : Char} {u rest : Text} (blank : ∀ d ∈ c :: u, Text.isBlank d)
    (stop : ∀ d ∈ rest.head?, Text.isBlank d = false) :
    next c (u ++ rest) = (.space (c :: u), rest) := by
  have first : Text.isBlank c := blank c (by simp)
  have noOperator : isOperator c = false := by
    by_cases operator : isOperator c
    · simp [(plain_of_isOperator operator).2.2] at first
    · simpa using operator
  have inside : ∀ d ∈ u, Text.isBlank d := fun d member => blank d (by simp [member])
  rw [next_sign (plain_of_isBlank first) (ne_of_isBlank first (by decide)) noOperator]
  simp [first, Text.takeWhile_append_stop inside stop, Text.dropWhile_append_stop inside stop,
    ne_of_isBlank first (d := '(') (by decide), ne_of_isBlank first (d := ')') (by decide),
    ne_of_isBlank first (d := ',') (by decide), ne_of_isBlank first (d := ':') (by decide)]

/-- A token that is whole is read off its text wherever it ends. -/
theorem next_text {t : Token} {rest : Text} (whole : Whole t) (apart : Apart t rest) :
    ∃ c u, t.text = c :: u ∧ next c (u ++ rest) = (t, rest) := by
  have plain : ∀ c ∈ ['(', ')', ',', ':'], Plain c ∧ c ≠ '\\' ∧ isOperator c = false := by
    intro c member
    simp only [List.mem_cons, List.not_mem_nil, or_false] at member
    rcases member with rfl | rfl | rfl | rfl <;>
      exact ⟨⟨by decide, by decide, by decide, by decide, by decide⟩, by decide, by decide⟩
  have sign := fun c member =>
    next_sign (plain c member).1 (plain c member).2.1 (plain c member).2.2 rest
  cases t with
  | string t =>
    obtain ⟨body, rfl, again⟩ := whole
    exact ⟨'"', body, rfl, next_string again apart⟩
  | ref r => exact next_ref whole apart
  | number t =>
    obtain ⟨l, formed, rfl⟩ := whole
    exact next_number formed apart
  | func t =>
    obtain ⟨c, u, rfl, start, word⟩ := whole
    obtain ⟨tail, rfl⟩ := List.head?_eq_some_iff.1 apart
    exact ⟨c, u, rfl, next_func start word tail⟩
  | name t =>
    obtain ⟨c, u, rfl, start, word, noAddress⟩ := whole
    exact ⟨c, u, rfl, next_name start word noAddress apart.1 apart.2⟩
  | op t => exact next_op whole apart
  | lparen => exact ⟨'(', [], rfl, sign '(' (by simp)⟩
  | rparen => exact ⟨')', [], rfl, sign ')' (by simp)⟩
  | comma => exact ⟨',', [], rfl, sign ',' (by simp)⟩
  | colon => exact ⟨':', [], rfl, sign ':' (by simp)⟩
  | space t =>
    obtain ⟨some_char, blank⟩ := whole
    obtain ⟨c, u, rfl⟩ := List.exists_cons_of_ne_nil some_char
    exact ⟨c, u, rfl, next_space blank apart⟩
  | other c => exact absurd whole (by simp [Whole])

end CellGraph.Token
