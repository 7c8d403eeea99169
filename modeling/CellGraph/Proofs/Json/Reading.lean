import CellGraph.Proofs.Dialect.Spelling
import CellGraph.Proofs.Json.Strings

/-!
# Reading what has been written

A value is written as lexemes with white space between them, so reading goes from one state to
another while a value is read (`readFrom_write`). That holds of values whose numbers are integers.
-/

namespace CellGraph.Json

/-! ## Steps of reading -/

/-- The state that reading a text leads to. -/
def readFrom (s : State) (t : Text) : Option State := do
  let ls ← lexemes? t
  ls.foldlM State.step s

theorem read?_eq (t : Text) : read? t = (readFrom (.value [] false) t).bind State.result? := by
  simp [read?, readFrom, Option.bind_assoc]

theorem readFrom_space {c : Char} (space : isSpace c) (s : State) (t : Text) :
    readFrom s (c :: t) = readFrom s t := by
  rw [readFrom, lexemes?, if_pos space, readFrom]

theorem readFrom_spaces {u : Text} (spaces : ∀ c ∈ u, isSpace c) (s : State) (t : Text) :
    readFrom s (u ++ t) = readFrom s t := by
  induction u with
  | nil => rfl
  | cons c u ih =>
    rw [List.forall_mem_cons] at spaces
    rw [List.cons_append, readFrom_space spaces.1, ih spaces.2]

theorem readFrom_lexeme {c : Char} {t rest : Text} {l : Lexeme} (noSpace : isSpace c = false)
    (scanned : scan? c t = some (l, rest)) (s : State) :
    readFrom s (c :: t) = (s.step l).bind (readFrom · rest) := by
  have cut : lexemes? (c :: t) = (lexemes? rest).map (l :: ·) := by
    rw [lexemes?, if_neg (by simp [noSpace])]
    split
    · next missing => rw [scanned] at missing; cases missing
    · next found =>
      rw [scanned] at found
      cases found
      rfl
  rw [readFrom, cut]
  cases read : lexemes? rest <;> cases next : s.step l <;> simp [readFrom, read, next]

/-- A punctuation character is a lexeme of its own. -/
theorem readFrom_mark {c : Char} (isMark : c ∈ ("[]\x7b\x7d,:" : Text)) (s : State) (t : Text) :
    readFrom s (c :: t) = (s.step (.punctuation c)).bind (readFrom · t) := by
  have noSpace : ∀ c ∈ ("[]\x7b\x7d,:" : Text), isSpace c = false :=
    Text.forall_of_all (by decide)
  exact readFrom_lexeme (noSpace c isMark) (if_pos (List.contains_iff_mem.2 isMark)) s

theorem readFrom_stringText (s : State) (t rest : Text) :
    readFrom s (stringText t ++ rest) = (s.step (.scalar (.string t))).bind (readFrom · rest) := by
  have scanned : scan? '"' (t.flatMap escape ++ '"' :: rest) =
      some (.scalar (.string t), rest) := by
    rw [scan?, if_neg (by decide), if_pos rfl]
    simp [scanUnits?_escapes, Utf.joinUnits?_units16]
  have noSpace : isSpace '"' = false := by decide
  rw [← readFrom_lexeme noSpace scanned s]
  simp [stringText]

/-! ## Numbers -/

/-- No number but zero starts with the digit zero. -/
theorem eq_zero_of_ofNat {n : Nat} {t : Text} (zero : Text.ofNat n = '0' :: t) : n = 0 := by
  rw [Text.ofNat] at zero
  induction n using Nat.strongRecOn generalizing t with
  | ind n ih =>
    rcases Nat.lt_or_ge n 10 with small | large
    · have digits : ∀ n < 10, Nat.digitChar n = '0' → n = 0 := by decide
      rw [Nat.toDigits_of_lt_base small] at zero
      exact digits n small (List.cons.inj zero).1
    · rw [Nat.toDigits_of_base_le (by decide) large] at zero
      obtain ⟨c, front, same⟩ := List.exists_cons_of_ne_nil (Text.ofNat_ne_nil (n / 10))
      rw [Text.ofNat] at same
      rw [same, List.cons_append] at zero
      rw [(List.cons.inj zero).1] at same
      have := ih (n / 10) (by omega) same
      omega

theorem scanWhole_ofNat (n : Nat) {rest : Text} (stop : ∀ c ∈ rest.head?, c.isDigit = false) :
    scanWhole (Text.ofNat n ++ rest) = (Text.ofNat n, rest) := by
  unfold scanWhole
  split
  · next t zero =>
    obtain ⟨c, front, same⟩ := List.exists_cons_of_ne_nil (Text.ofNat_ne_nil n)
    rw [same, List.cons_append] at zero
    obtain ⟨rfl, rfl⟩ := List.cons.inj zero
    obtain rfl := eq_zero_of_ofNat same
    obtain rfl : front = [] := by simpa [Text.ofNat] using same.symm
    rfl
  · have digits : ∀ c ∈ Text.ofNat n, c.isDigit := fun _ => Text.isDigit_of_mem_ofNat
    rw [Text.takeWhile_append_stop digits stop, Text.dropWhile_append_stop digits stop]

theorem scanNumber?_ofNat (negative : Bool) (n : Nat) {rest : Text} (ends : Literal.Ends rest) :
    scanNumber? negative (Text.ofNat n ++ rest) =
      some (.int (if negative then -(n : Int) else n), rest) := by
  have noFraction : scanFraction rest = (none, rest) := by
    unfold scanFraction
    split
    · exact absurd rfl (ends '.' rfl).2.1
    · rfl
  simp [scanNumber?, scanWhole_ofNat n ends.stop, noFraction, Exponent.scan_of_ends ends,
    Text.ofNat_ne_nil, Text.natOfDigits_ofNat]

/-- No word starts with a digit, nor with a digit behind a minus sign. -/
theorem scanWord?_digit {c : Char} (digit : c.isDigit) (t : Text) :
    scanWord? (c :: t) = none ∧ scanWord? ('-' :: c :: t) = none := by
  have other (d : Char) (noDigit : d.isDigit = false) : d ≠ c := by
    rintro rfl
    rw [digit] at noDigit
    cases noDigit
  simp [scanWord?, words, Text.after?, other 'n' (by decide), other 't' (by decide),
    other 'f' (by decide), other 'N' (by decide), other 'I' (by decide), other '-' (by decide)]

theorem start_of_isDigit {c : Char} (digit : c.isDigit) :
    isSpace c = false ∧ c ∉ ("[]\x7b\x7d,:" : Text) ∧ c ≠ '"' ∧ c ≠ '-' := by
  have checked : ∀ c : Char, c.toNat < 58 → c.isDigit → isSpace c = false ∧
      c ∉ ("[]\x7b\x7d,:" : Text) ∧ c ≠ '"' ∧ c ≠ '-' := Text.forall_of_lt (by decide)
  have bounds := Text.isDigit_iff.1 digit
  exact checked c (by omega) digit

theorem readFrom_ofInt (s : State) (n : Int) {rest : Text} (ends : Literal.Ends rest) :
    readFrom s (Text.ofInt n ++ rest) = (s.step (.scalar (.int n))).bind (readFrom · rest) := by
  cases n with
  | ofNat n =>
    have number := scanNumber?_ofNat false n ends
    obtain ⟨c, t, same⟩ := List.exists_cons_of_ne_nil (Text.ofNat_ne_nil n)
    have digit : c.isDigit := Text.isDigit_of_mem_ofNat (n := n) (by simp [same])
    obtain ⟨noSpace, noMark, noQuote, noMinus⟩ := start_of_isDigit digit
    rw [same, List.cons_append] at number
    have scanned : scan? c (t ++ rest) = some (.scalar (.int n), rest) := by
      rw [scan?, if_neg (by simpa using noMark), if_neg noQuote, (scanWord?_digit digit _).1]
      simp [noMinus, number]
    rw [Text.ofInt, same, List.cons_append, readFrom_lexeme noSpace scanned]
    rfl
  | negSucc n =>
    have number := scanNumber?_ofNat true (n + 1) ends
    obtain ⟨c, t, same⟩ := List.exists_cons_of_ne_nil (Text.ofNat_ne_nil (n + 1))
    have digit : c.isDigit := Text.isDigit_of_mem_ofNat (n := n + 1) (by simp [same])
    rw [same, List.cons_append] at number
    have scanned : scan? '-' (c :: t ++ rest) = some (.scalar (.int (Int.negSucc n)), rest) := by
      rw [scan?, if_neg (by decide), if_neg (by decide), List.cons_append,
        (scanWord?_digit digit _).2]
      simp [number, Int.negSucc_eq]
    rw [Text.ofInt, same, List.cons_append, readFrom_lexeme (by decide) scanned]

/-! ## Values -/

mutual

/-- Whether all numbers in a value are integers. -/
def Integral : Json → Prop
  | .float _ => False
  | .array vs => IntegralAll vs
  | .object ms => IntegralMembers ms
  | _ => True

def IntegralAll : List Json → Prop
  | [] => True
  | v :: vs => Integral v ∧ IntegralAll vs

def IntegralMembers : List (Text × Json) → Prop
  | [] => True
  | (_, v) :: ms => Integral v ∧ IntegralMembers ms

end

theorem integralAll_iff {vs : List Json} : IntegralAll vs ↔ ∀ v ∈ vs, Integral v := by
  induction vs with
  | nil => simp [IntegralAll]
  | cons v vs ih => simp [IntegralAll, ih]

/-- A style that puts nothing but white space between lexemes. -/
def Style.Blank (style : Style) : Prop :=
  (∀ c ∈ style.afterComma, isSpace c) ∧ ∀ c ∈ style.afterColon, isSpace c

theorem Style.blank_of_all {style : Style}
    (blank : (style.afterComma ++ style.afterColon).all isSpace) : style.Blank := by
  rw [List.all_append, Bool.and_eq_true, List.all_eq_true, List.all_eq_true] at blank
  exact blank

theorem isSpace_of_mem_lineBreak {style : Style} {level : Nat} {c : Char}
    (member : c ∈ style.lineBreak level) : isSpace c := by
  unfold Style.lineBreak at member
  split at member
  · cases member
  · rcases List.mem_cons.1 member with rfl | space
    · decide
    · rw [List.eq_of_mem_replicate space]
      decide

/-- A number ends where a line breaks in front of a closing bracket. -/
theorem ends_lineBreak (style : Style) (level : Nat) {t : Text} (ends : Literal.Ends t) :
    Literal.Ends (style.lineBreak level ++ t) := by
  unfold Style.lineBreak
  split
  · exact ends
  · rintro c ⟨⟩
    decide

theorem ends_of_not_digit {c : Char} (other : c ∈ ("]\x7d,\n" : Text)) (t : Text) :
    Literal.Ends (c :: t) := by
  have checked : ∀ c ∈ ("]\x7d,\n" : Text), c.isDigit = false ∧ c ≠ '.' ∧ c ≠ 'e' ∧ c ≠ 'E' :=
    Text.forall_of_all (by decide)
  rintro d ⟨⟩
  exact checked c other

theorem readFrom_word {word : Text} {v : Json} (known : (word, v) ∈ words) (s : State) (t : Text) :
    readFrom s (word ++ t) = (s.step (.scalar v)).bind (readFrom · t) := by
  simp only [words, String.reduceToList, List.mem_cons, Prod.mk.injEq, List.not_mem_nil, or_false]
    at known
  rcases known with ⟨rfl, rfl⟩ | ⟨rfl, rfl⟩ | ⟨rfl, rfl⟩ | ⟨rfl, rfl⟩ | ⟨rfl, rfl⟩ | ⟨rfl, rfl⟩
  all_goals
    refine readFrom_lexeme (by decide) ?_ s
    simp [scan?, scanWord?, words, Text.after?]

theorem ends_writeItems (style : Style) (level outer : Nat) (vs : List Json) (t : Text) :
    Literal.Ends (writeItems style level vs ++ (style.lineBreak outer ++ ']' :: t)) := by
  cases vs with
  | nil => exact ends_lineBreak style outer (ends_of_not_digit (by decide) t)
  | cons v vs => exact ends_of_not_digit (by decide) _

theorem ends_writeMembers (style : Style) (level outer : Nat) (ms : List (Text × Json)) (t : Text) :
    Literal.Ends (writeMembers style level ms ++ (style.lineBreak outer ++ '\x7d' :: t)) := by
  cases ms with
  | nil => exact ends_lineBreak style outer (ends_of_not_digit (by decide) t)
  | cons m ms => exact ends_of_not_digit (by decide) _

mutual

/-- While a value is read, the state goes from waiting for it to standing behind it. -/
theorem readFrom_write {style : Style} (blank : style.Blank) : ∀ (v : Json) (level : Nat)
    (open_ : List Frame) (mayEnd : Bool) (t : Text), Integral v → Literal.Ends t →
    readFrom (.value open_ mayEnd) (write style level v ++ t) = readFrom (.after v open_) t
  | .null, _, _, _, t, _, _ => by rw [write, readFrom_word (v := .null) (by simp [words])]; rfl
  | .bool true, _, _, _, t, _, _ => by
    rw [write, readFrom_word (v := .bool true) (by simp [words])]; rfl
  | .bool false, _, _, _, t, _, _ => by
    rw [write, readFrom_word (v := .bool false) (by simp [words])]; rfl
  | .int n, _, _, _, t, _, ends => by rw [write, readFrom_ofInt _ n ends]; rfl
  | .string u, _, _, _, t, _, _ => by rw [write, readFrom_stringText]; rfl
  | .array [], _, open_, _, t, _, _ => by
    have close := readFrom_mark (c := ']') (by decide) (.value (.array [] :: open_) true) t
    rw [write]
    exact (readFrom_mark (by decide) _ _).trans close
  | .array (v :: vs), level, open_, mayEnd, t, ⟨integral, integrals⟩, _ => by
    have first := readFrom_write blank v (level + 1) (.array [] :: open_) true _ integral
      (ends_writeItems style (level + 1) level vs t)
    have others := readFrom_writeItems blank vs (level + 1) level v [] open_ t integrals
    rw [write]
    simp only [List.append_assoc, List.cons_append, List.nil_append]
    rw [readFrom_mark (by decide)]
    refine (readFrom_spaces (fun c => isSpace_of_mem_lineBreak) _ _).trans ?_
    rw [first, others]
    rfl
  | .object [], _, open_, _, t, _, _ => by
    have close := readFrom_mark (c := '\x7d') (by decide) (.name [] open_ true) t
    rw [write]
    exact (readFrom_mark (by decide) _ _).trans close
  | .object (m :: ms), level, open_, mayEnd, t, ⟨integral, integrals⟩, _ => by
    have first := readFrom_writeMember blank m (level + 1) [] open_ true _ integral
      (ends_writeMembers style (level + 1) level ms t)
    have others := readFrom_writeMembers blank ms (level + 1) level m [] open_ t integrals
    rw [write]
    simp only [List.append_assoc, List.cons_append, List.nil_append]
    rw [readFrom_mark (by decide)]
    refine (readFrom_spaces (fun c => isSpace_of_mem_lineBreak) _ _).trans ?_
    rw [first, others]
    rfl

/-- The items of an array behind those that have been read, up to its end. -/
theorem readFrom_writeItems {style : Style} (blank : style.Blank) : ∀ (vs : List Json)
    (level outer : Nat) (v : Json) (done : List Json) (open_ : List Frame) (t : Text),
    IntegralAll vs →
    readFrom (.after v (.array done :: open_))
        (writeItems style level vs ++ (style.lineBreak outer ++ ']' :: t)) =
      readFrom (.after (.array (done.reverse ++ v :: vs)) open_) t
  | [], level, outer, v, done, open_, t, _ => by
    rw [writeItems, List.nil_append, readFrom_spaces fun c => isSpace_of_mem_lineBreak,
      readFrom_mark (by decide)]
    simp [State.step]
  | w :: vs, level, outer, v, done, open_, t, ⟨integral, integrals⟩ => by
    have item := readFrom_write blank w level (.array (v :: done) :: open_) false _ integral
      (ends_writeItems style level outer vs t)
    have others := readFrom_writeItems blank vs level outer w (v :: done) open_ t integrals
    rw [writeItems]
    simp only [List.append_assoc, List.cons_append]
    rw [readFrom_mark (by decide)]
    refine (readFrom_spaces blank.1 _ _).trans ?_
    rw [readFrom_spaces fun c => isSpace_of_mem_lineBreak, item, others]
    simp

theorem readFrom_writeMembers {style : Style} (blank : style.Blank) : ∀ (ms : List (Text × Json))
    (level outer : Nat) (m : Text × Json) (done : List (Text × Json)) (open_ : List Frame)
    (t : Text), IntegralMembers ms →
    readFrom (.after m.2 (.object done m.1 :: open_))
        (writeMembers style level ms ++ (style.lineBreak outer ++ '\x7d' :: t)) =
      readFrom (.after (.object (done.reverse ++ m :: ms)) open_) t
  | [], level, outer, m, done, open_, t, _ => by
    rw [writeMembers, List.nil_append, readFrom_spaces fun c => isSpace_of_mem_lineBreak,
      readFrom_mark (by decide)]
    simp [State.step]
  | k :: ms, level, outer, m, done, open_, t, ⟨integral, integrals⟩ => by
    have member := readFrom_writeMember blank k level (m :: done) open_ false _ integral
      (ends_writeMembers style level outer ms t)
    have others := readFrom_writeMembers blank ms level outer k (m :: done) open_ t integrals
    rw [writeMembers]
    simp only [List.append_assoc, List.cons_append]
    rw [readFrom_mark (by decide)]
    refine (readFrom_spaces blank.1 _ _).trans ?_
    rw [readFrom_spaces fun c => isSpace_of_mem_lineBreak, member, others]
    simp

theorem readFrom_writeMember {style : Style} (blank : style.Blank) : ∀ (m : Text × Json)
    (level : Nat) (done : List (Text × Json)) (open_ : List Frame) (mayEnd : Bool) (t : Text),
    Integral m.2 → Literal.Ends t →
    readFrom (.name done open_ mayEnd) (writeMember style level m ++ t) =
      readFrom (.after m.2 (.object done m.1 :: open_)) t
  | (name, v), level, done, open_, mayEnd, t, integral, ends => by
    have value := readFrom_write blank v level (.object done name :: open_) false t integral ends
    rw [writeMember]
    simp only [List.append_assoc, List.cons_append]
    rw [readFrom_stringText]
    refine (readFrom_mark (by decide) _ _).trans ?_
    exact (readFrom_spaces blank.2 _ _).trans value

end

/-- A value whose numbers are integers is read back from its text. -/
theorem read?_text {style : Style} (blank : style.Blank) {v : Json} (integral : Integral v) :
    read? (v.text style) = some v := by
  have read := readFrom_write blank v 0 [] false [] integral (by simp [Literal.Ends])
  rw [List.append_nil] at read
  rw [read?_eq, text, read]
  simp [readFrom, lexemes?, State.result?]

/-- No lexeme starts with a parenthesis. -/
theorem lexemes?_parenthesis (t : Text) : lexemes? (')' :: t) = none := by
  have noWord : scanWord? (')' :: t) = none := by simp [scanWord?, words, Text.after?]
  have noLexeme : scan? ')' t = none := by
    rw [scan?, if_neg (by decide), if_neg (by decide), noWord]
    simp [scanNumber?, scanWhole]
  rw [lexemes?, if_neg (by decide)]
  split
  · rfl
  · next found =>
    rw [noLexeme] at found
    cases found

/-- Behind a whole value neither a comma nor a closing parenthesis can be read. -/
theorem read?_text_append {style : Style} (blank : style.Blank) {v : Json} (integral : Integral v)
    {c : Char} (next : c = ')' ∨ c = ',') (t : Text) : read? (v.text style ++ c :: t) = none := by
  have ends : Literal.Ends (c :: t) := by
    rcases next with rfl | rfl <;> rintro d ⟨⟩ <;> decide
  have stuck : readFrom (.after v []) (c :: t) = none := by
    rcases next with rfl | rfl
    · simp [readFrom, lexemes?_parenthesis]
    · exact readFrom_mark (by decide) _ t
  have read := readFrom_write blank v 0 [] false (c :: t) integral ends
  rw [read?_eq, text, read, stuck]
  rfl

/-! ## Characters of what has been written -/

/-- A style that starts no new lines and puts only printable characters between lexemes. -/
structure Style.OneLine (style : Style) : Prop where
  noIndent : style.indent = none
  afterComma : ∀ c ∈ style.afterComma, Text.Printable c
  afterColon : ∀ c ∈ style.afterColon, Text.Printable c

theorem Style.OneLine.lineBreak {style : Style} (oneLine : style.OneLine) (level : Nat) :
    style.lineBreak level = [] := by
  rw [Style.lineBreak, oneLine.noIndent]

theorem printable_of_mem_ofInt (n : Int) : ∀ c ∈ Text.ofInt n, Text.Printable c := by
  have digits (n : Nat) : ∀ c ∈ Text.ofNat n, Text.Printable c := fun c member => by
    have bounds := Text.isDigit_iff.1 (Text.isDigit_of_mem_ofNat member)
    constructor <;> omega
  cases n with
  | ofNat n => exact digits n
  | negSucc n => exact List.forall_mem_cons.2 ⟨by decide, digits (n + 1)⟩

mutual

theorem printable_write {style : Style} (oneLine : style.OneLine) : ∀ (v : Json) (level : Nat),
    Integral v → ∀ c ∈ write style level v, Text.Printable c
  | .null, _, _ => by rw [write]; exact Text.forall_of_all (by decide)
  | .bool true, _, _ => by rw [write]; exact Text.forall_of_all (by decide)
  | .bool false, _, _ => by rw [write]; exact Text.forall_of_all (by decide)
  | .int n, _, _ => by rw [write]; exact printable_of_mem_ofInt n
  | .string t, _, _ => by rw [write]; exact fun _ => printable_of_mem_stringText
  | .array [], _, _ => by rw [write]; exact Text.forall_of_all (by decide)
  | .array (v :: vs), level, ⟨integral, integrals⟩ => by
    have first := printable_write oneLine v (level + 1) integral
    have others := printable_writeItems oneLine vs (level + 1) integrals
    rw [write, oneLine.lineBreak, oneLine.lineBreak]
    simp only [List.append_nil, List.cons_append, List.nil_append, List.forall_mem_append,
      List.forall_mem_cons]
    exact ⟨by decide, ⟨first, others⟩, by decide, List.forall_mem_nil _⟩
  | .object [], _, _ => by rw [write]; exact Text.forall_of_all (by decide)
  | .object ((name, v) :: ms), level, ⟨integral, integrals⟩ => by
    have first := printable_writeMember oneLine (name, v) (level + 1) integral
    have others := printable_writeMembers oneLine ms (level + 1) integrals
    rw [write, oneLine.lineBreak, oneLine.lineBreak]
    simp only [List.append_nil, List.cons_append, List.nil_append, List.forall_mem_append,
      List.forall_mem_cons]
    exact ⟨by decide, ⟨first, others⟩, by decide, List.forall_mem_nil _⟩

theorem printable_writeItems {style : Style} (oneLine : style.OneLine) : ∀ (vs : List Json)
    (level : Nat), IntegralAll vs → ∀ c ∈ writeItems style level vs, Text.Printable c
  | [], _, _ => by simp [writeItems]
  | v :: vs, level, ⟨integral, integrals⟩ => by
    have item := printable_write oneLine v level integral
    have others := printable_writeItems oneLine vs level integrals
    rw [writeItems, oneLine.lineBreak, List.append_nil]
    simp only [List.cons_append, List.forall_mem_append, List.forall_mem_cons]
    exact ⟨by decide, ⟨oneLine.afterComma, item⟩, others⟩

theorem printable_writeMembers {style : Style} (oneLine : style.OneLine) :
    ∀ (ms : List (Text × Json)) (level : Nat), IntegralMembers ms →
      ∀ c ∈ writeMembers style level ms, Text.Printable c
  | [], _, _ => by simp [writeMembers]
  | (name, v) :: ms, level, ⟨integral, integrals⟩ => by
    have member := printable_writeMember oneLine (name, v) level integral
    have others := printable_writeMembers oneLine ms level integrals
    rw [writeMembers, oneLine.lineBreak, List.append_nil]
    simp only [List.cons_append, List.forall_mem_append, List.forall_mem_cons]
    exact ⟨by decide, ⟨oneLine.afterComma, member⟩, others⟩

theorem printable_writeMember {style : Style} (oneLine : style.OneLine) : ∀ (m : Text × Json)
    (level : Nat), Integral m.2 → ∀ c ∈ writeMember style level m, Text.Printable c
  | (name, v), level, integral => by
    have value := printable_write oneLine v level integral
    rw [writeMember]
    simp only [List.forall_mem_append, List.forall_mem_cons]
    exact ⟨⟨fun _ => printable_of_mem_stringText, by decide, oneLine.afterColon⟩, value⟩

end

end CellGraph.Json
