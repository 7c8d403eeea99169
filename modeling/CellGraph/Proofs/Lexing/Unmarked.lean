import CellGraph.Proofs.Lexing.Placed

/-!
# Tokens without dollar signs

Dropping all dollar signs from a formula drops them from its references and changes no other token
(`tokens_without`), provided that they all stand in addresses and none of them parts a word from
an address that would continue it (`Marked`). In a formula without dollar signs no word stands in
front of such an address (`parted_tokens`), so the second condition is needed as well.
-/

namespace CellGraph

open Text (without Placed)

/-! ## Numbers -/

namespace Literal

/-- Dropping dollar signs makes no number. -/
theorem scan_without_eq_none {c : Char} {t : Text} {before : Option Char}
    (placed : Placed before (c :: t)) (none : scan Char.isDigit (c :: t) = none) :
    scan Char.isDigit (c :: without '$' t) = Option.none := by
  by_cases point : c = '.'
  · subst point
    rw [scan_point_eq_none_iff] at none ⊢
    intro d first
    obtain ⟨u, rest⟩ := List.head?_eq_some_iff.1 first
    obtain ⟨mark, t', -, rfl, -, -, rfl | isMark⟩ := placed.2.marker rest
    · exact none d rfl
    · rw [Bool.eq_false_iff]
      intro digit
      exact absurd (isMark.upper digit) (by decide)
  · exact Token.Literal.scan_eq_none _ (not_isDigit_of_scan none) point

/-- What stands behind a number adds nothing to it once dollar signs are dropped. -/
theorem Stops.without {l : Literal} {rest : Text} (stops : l.Stops rest) {before : Option Char}
    (placed : Placed before rest) (noDollar : rest.head? ≠ some '$')
    (noColumn : ∀ u, rest ≠ 'E' :: '$' :: u) : l.Stops (Text.without '$' rest) where
  noDigit := by
    rw [Text.head?_without noDollar]
    exact stops.noDigit
  noPoint noFraction plain := by
    rw [Text.head?_without noDollar]
    exact stops.noPoint noFraction plain
  noExponent plain := Exponent.scan_without placed noDollar noColumn (stops.noExponent plain)

/-- Only an address with the letter of an exponent adds something to the number before it. -/
theorem stops_address {l : Literal} {column row : Text} (letters : Ref.IsColumn column)
    (noColumn : l.exponent = none → column ≠ ['E']) (rest : Text) :
    l.Stops (column ++ (row ++ rest)) := by
  obtain ⟨c, column, rfl⟩ := List.exists_cons_of_ne_nil letters.some_letter
  have capital : c.isUpper := letters.letters c (by simp)
  refine ⟨?_, ?_, fun plain => Exponent.scan_eq_none_iff.2 ?_⟩
  · rintro d ⟨⟩
    rw [Bool.eq_false_iff]
    exact Text.not_isDigit_of_isUpper capital
  · rintro - - ⟨⟩
    exact absurd capital (by decide)
  · rintro ⟨mark, sign, digits⟩ rest' formed same
    simp only [Exponent.text, List.cons_append, List.append_assoc, List.cons.injEq] at same
    obtain ⟨rfl, same⟩ := same
    obtain rfl : c = 'E' := by
      rcases formed.mark with rfl | rfl
      · exact absurd capital (by decide)
      · rfl
    cases column with
    | nil => exact noColumn plain rfl
    | cons d column =>
      -- a second letter is neither a sign nor a digit
      have second : d.isUpper := letters.letters d (by simp)
      cases sign with
      | some s =>
        obtain rfl : d = s := (List.cons.inj same).1
        rcases formed.sign d rfl with rfl | rfl <;> exact absurd second (by decide)
      | none =>
        obtain ⟨e, digits, rfl⟩ := List.exists_cons_of_ne_nil formed.some_digit
        obtain rfl : d = e := (List.cons.inj same).1
        exact Text.not_isDigit_of_isUpper second (formed.digits d (by simp))

end Literal

namespace Token

/-! ## Reading one token -/

theorem Whole.unmarked {t : Token} (whole : Whole t) (marks : Marks t) : Whole t.unmarked := by
  cases t with
  | ref r => exact Ref.Formed.unmarked whole marks
  | _ => exact whole

/-- A token still ends where it did once dollar signs are dropped behind it. -/
theorem Apart.without {t : Token} {rest : Text} (apart : Apart t rest) (noWord : isWord t = false)
    {before : Option Char} (placed : Placed before rest)
    (noDollar : endsWord t → rest.head? ≠ some '$') : Apart t.unmarked (without '$' rest) := by
  have stop : ∀ {d : Char}, d ∉ rest.head? → d.isUpper = false → d.isDigit = false →
      d ∉ (Text.without '$' rest).head? := by
    intro d absent small noDigit first
    rcases placed.head first with before | capital | digit
    · exact absent before
    · simp [small] at capital
    · simp [noDigit] at digit
  cases t with
  | string w =>
    rcases apart with rfl | ⟨closed, ends⟩
    · exact .inl rfl
    · exact .inr ⟨closed, stop ends (by decide) (by decide)⟩
  | ref => exact (Ref.continues_without (noDollar rfl)).trans apart
  | number | name => cases noWord
  | func =>
    obtain ⟨u, rfl⟩ := List.head?_eq_some_iff.1 apart
    rfl
  | op w =>
    intro d first
    rcases placed.head first with head | capital | digit
    · exact apart d head
    · refine ⟨fun _ => ⟨?_, ?_⟩, fun _ => ?_⟩ <;> rintro rfl <;> exact absurd capital (by decide)
    · refine ⟨fun _ => ⟨?_, ?_⟩, fun _ => ?_⟩ <;> rintro rfl <;> exact absurd digit (by decide)
  | space w =>
    intro d first
    rw [Bool.eq_false_iff]
    intro blank
    have plain := plain_of_isBlank blank
    exact stop (fun head => by simp [apart d head] at blank) plain.not_upper plain.not_digit first
  | _ => trivial

/-- A name is read again once dollar signs are dropped behind it. -/
theorem nextPlain_name_without {c : Char} {t w rest : Text}
    (read : nextPlain c t = (.name w, rest)) (noDollar : rest.head? ≠ some '$') :
    nextPlain c (without '$' t) = (.name w, without '$' rest) := by
  obtain ⟨isName, rfl, same, noFunc⟩ := nextPlain_name read
  have bare := Text.takeWhile_inside (p := SheetName.isBareChar) t
  have free : '$' ∉ t.takeWhile SheetName.isBareChar := fun dollar =>
    absurd (bare _ dollar) (by decide)
  have stop : ∀ c ∈ (without '$' rest).head?, SheetName.isBareChar c = false := by
    rw [Text.head?_without noDollar, same]
    exact Text.dropWhile_stop t
  have dropped : without '$' t = t.takeWhile SheetName.isBareChar ++ without '$' rest := by
    rw [← Text.without_of_not_mem free, ← Text.without_append, same,
      List.takeWhile_append_dropWhile]
  have taken := Text.takeWhile_append_stop bare stop
  have left := Text.dropWhile_append_stop bare stop
  rw [← dropped] at taken left
  rw [← Text.head?_without noDollar] at noFunc
  simp only [nextPlain, taken, left, noFunc, isName, if_false, if_true, Bool.false_eq_true]

/-- A number ends where it did once dollar signs are dropped behind it. -/
theorem stops_without {l : Literal} {rest : Text} (formed : l.Formed) (stops : l.Stops rest)
    {before : Option Char} (placed : Placed before rest)
    (marked : Marked (.number l.text :: tokens rest)) : l.Stops (without '$' rest) := by
  cases rest with
  | nil => exact stops
  | cons c u =>
    have parted := List.isChain_cons.1 marked.parted
    have inner := marked.tail
    rw [tokens] at parted
    by_cases starts : isLocal (next c u).1
    · have apart := parted.1 (next c u).1 rfl
      obtain ⟨written, address, shape, same, whole⟩ := exists_address_of_next starts
      rw [whole, Text.without_append, shape.without]
      rw [same] at apart
      cases shape with
      | intro _ letters _ digits =>
        rw [List.append_assoc]
        refine Literal.stops_address letters (fun plain isE => ?_) _
        have small : 'e' ∉ l.text := fun e => absurd (formed.plain plain e) (by decide)
        have capital : 'E' ∉ l.text := fun e => absurd (formed.plain plain e) (by decide)
        have column := (Ref.takeWhile_address letters digits).trans isE
        simp only [Parted, meets, Ref.column, column] at apart
        simp [small, capital] at apart
    · refine stops.without placed (fun dollar => ?_) (fun v column => ?_)
      · obtain rfl : c = '$' := by simpa using dollar
        rw [tokens] at inner
        exact starts (isLocal_next_dollar (inner.marks _ (List.mem_cons_self ..)))
      · cases column
        exact starts (inner.isLocal_next (by decide))

/-- Numbers, names and characters that stand for themselves stay what they are. -/
theorem next_word_without {c : Char} {t : Text} (placed : Placed none (c :: t))
    (marked : Marked ((next c t).1 :: tokens (next c t).2))
    (word : isOther (next c t).1 ∨ isWord (next c t).1) :
    ∃ d u, without '$' (c :: t) = d :: u ∧
      next d u = ((next c t).1.unmarked, without '$' (next c t).2) := by
  have isPlain : (∀ w, (next c t).1 ≠ .string w) ∧ ∀ r, (next c t).1 ≠ .ref r := by
    constructor <;> (intro _ same; simp [same, isOther, isWord] at word)
  obtain ⟨noLiteral, noRef, read⟩ := next_cases isPlain.1 isPlain.2
  have noDollar := fun ends => marked.head_ne (t := (next c t).1) ends
  have whole := (text_next c t).1
  have behind : Placed none (next c t).2 := by
    rw [← whole] at placed
    exact placed.of_append
  have notDollar : c ≠ '$' := by
    rintro rfl
    have starts := isLocal_next_dollar (marked.marks _ (List.mem_cons_self ..))
    obtain ⟨_, _, -, same, -⟩ := exists_address_of_next starts
    exact isPlain.2 _ same
  refine ⟨c, without '$' t, Text.without_cons notDollar t, ?_⟩
  have noRef' := Ref.scan?_without_eq_none placed notDollar noRef
  rcases read with ⟨l, rest, found, read⟩ | ⟨noNumber, read⟩
  · rw [read] at marked noDollar behind ⊢
    have formed := Literal.formed_of_scan found
    have stops := stops_without formed (Literal.stops_of_scan found) behind marked
    have again := Literal.scan_of_stops formed stops
    rw [← Text.without_of_not_mem (formed.not_mem (c := '$') (by decide)), ← Text.without_append,
      ← (Literal.eq_of_scan found).1, Text.without_cons notDollar] at again
    simp only [next, noLiteral, if_false, noRef', again]
    rfl
  · have noNumber' := Literal.scan_without_eq_none placed noNumber
    have read' : next c (without '$' t) = nextPlain c (without '$' t) := by
      simp only [next, noLiteral, if_false, noRef', noNumber']
    rw [read']
    cases same : (next c t).1 with
    | name w =>
      rw [same] at noDollar
      exact nextPlain_name_without (by rw [← read, ← same]) (noDollar rfl)
    | other d =>
      obtain ⟨single, -, plain⟩ := next_other same
      rw [single] at same ⊢
      cases same
      exact plain _
    | number w =>
      rw [read] at same
      exact absurd same (nextPlain_ne_number c t w)
    | _ => simp [same, isOther, isWord] at word

/-- The first token of a formula without its dollar signs. -/
theorem next_without {c : Char} {t : Text} (marked : Marked (tokens (c :: t))) :
    ∃ d u, without '$' (c :: t) = d :: u ∧
      next d u = ((next c t).1.unmarked, without '$' (next c t).2) := by
  have placed : Placed none (c :: t) := placed_of_marked marked (by simp)
  rw [tokens] at marked
  by_cases word : isOther (next c t).1 ∨ isWord (next c t).1
  · exact next_word_without placed marked word
  · have whole := (text_next c t).1
    have marks := marked.marks (next c t).1 (by simp)
    rw [← whole] at placed
    simp only [not_or, Bool.not_eq_true] at word
    obtain ⟨isWhole, apart⟩ := whole_apart_next c t word.1 (by simp [word.2])
    obtain ⟨d, u, start, read⟩ :=
      next_text (isWhole.unmarked marks) (apart.without word.2 placed.of_append marked.head_ne)
    refine ⟨d, u ++ without '$' (next c t).2, ?_, read⟩
    rw [← whole, Text.without_append, ← text_unmarked marks, start, List.cons_append]

/-- Dropping the dollar signs of a formula drops those of its references, and nothing else. -/
theorem tokens_without {formula : Text} (marked : Marked (tokens formula)) :
    tokens (without '$' formula) = (tokens formula).map unmarked := by
  fun_induction tokens formula with
  | case1 => rw [Text.without_nil, tokens, List.map_nil]
  | case2 c t ih =>
    obtain ⟨d, u, start, read⟩ := next_without (by rwa [tokens])
    rw [start, tokens, read, ih marked.tail]
    rfl

/-! ## Formulas without dollar signs -/

/-- A reference without sheet and dollar signs is its letters and its digits. -/
theorem exists_of_isLocal {formula : Text} (free : '$' ∉ formula) {u : Token}
    (head : u ∈ (tokens formula).head?) (starts : isLocal u) :
    ∃ column row rest, Ref.IsColumn column ∧ Ref.IsRow row ∧
      formula = column ++ (row ++ rest) ∧ u = .ref ⟨none, column ++ row, column ++ row⟩ := by
  cases formula with
  | nil => simp [tokens] at head
  | cons c t =>
    rw [tokens] at head
    obtain rfl : (next c t).1 = u := by simpa using head
    obtain ⟨written, address, shape, same, whole⟩ := exists_address_of_next starts
    have plain : '$' ∉ written := fun dollar =>
      free (by rw [whole]; exact List.mem_append_left _ dollar)
    obtain rfl : written = address := by rw [← shape.without, Text.without_of_not_mem plain]
    obtain ⟨column, row, rfl, letters, digits⟩ := shape.plain plain
    exact ⟨column, row, (next c t).2, letters, digits, by simpa using whole, same⟩

/-- A number without exponent ends in front of no letter and digits that are one. -/
theorem parted_number {l : Literal} (formed : l.Formed) {column row rest : Text}
    (letters : Ref.IsColumn column) (digits : Ref.IsRow row)
    (stops : l.Stops (column ++ (row ++ rest))) :
    Parted (.number l.text) (.ref ⟨none, column ++ row, column ++ row⟩) := by
  by_contra meet
  simp only [Parted, meets, Ref.column, Ref.takeWhile_address letters digits, Option.isNone_none,
    Bool.true_and, Bool.not_eq_false, Bool.and_eq_true, beq_iff_eq, Bool.not_eq_true',
    Bool.or_eq_false_iff, List.contains_eq_mem, decide_eq_false_iff_not] at meet
  obtain ⟨rfl, small, capital⟩ := meet
  have noExponent := stops.noExponent (formed.exponent_eq_none small capital)
  exact Exponent.scan_eq_none_iff.1 noExponent ⟨'E', none, row⟩ rest
    ⟨.inr rfl, by simp, digits.digits, digits.some_digit⟩ rfl

/-- Without dollar signs no token stands in front of an address that would continue it. -/
theorem parted_tokens {formula : Text} (free : '$' ∉ formula) :
    (tokens formula).IsChain Parted := by
  fun_induction tokens formula with
  | case1 => exact .nil
  | case2 c t ih =>
    rw [← (text_next c t).1, List.mem_append, not_or] at free
    refine List.isChain_cons.2 ⟨fun u head => ?_, ih free.2⟩
    by_cases starts : isLocal u
    · obtain ⟨column, row, rest, letters, digits, whole, rfl⟩ :=
        exists_of_isLocal free.2 head starts
      have first : ∃ d ∈ (next c t).2.head?, SheetName.isBareChar d := by
        obtain ⟨d, column, rfl⟩ := List.exists_cons_of_ne_nil letters.some_letter
        exact ⟨d, by simp [whole], SheetName.isBareChar_of_isUpper (letters.letters d (by simp))⟩
      obtain ⟨d, inside, bare⟩ := first
      cases same : (next c t).1 with
      | name w => simp [not_bare_of_next_name same d inside] at bare
      | ref r => simp [Ref.not_bare_of_continues (formed_of_next same).2 d inside] at bare
      | number w =>
        obtain ⟨l, formed, rfl, stops⟩ := exists_of_next_number same
        exact parted_number formed letters digits (whole ▸ stops)
      | _ => rfl
    · cases u with
      | ref r =>
        have sheet : r.sheet.isNone = false := Bool.eq_false_iff.2 starts
        cases (next c t).1 <;> simp [Parted, meets, sheet]
      | _ => cases (next c t).1 <;> rfl

/-- If a formula has the same tokens without dollar signs, none of them parts a word. -/
theorem parted_of_tokens_without {formula : Text}
    (same : tokens (without '$' formula) = (tokens formula).map unmarked) :
    (tokens formula).IsChain Parted := by
  have parted := parted_tokens (Text.not_mem_without '$' formula)
  rw [same, List.isChain_map] at parted
  refine parted.imp fun t u apart => ?_
  cases t <;> cases u <;> exact apart

end Token
end CellGraph
