import CellGraph.Proofs.Lexing.Reference

/-!
# Dollar signs and scanners

What a scanner reads when the dollar signs are dropped from a text. In a text whose dollar signs
stand in addresses only (`Text.Placed`), dropping them makes no reference that was none before:
`Ref.scan?_without_eq_none`. It may well make an address of two words that a dollar sign parted, or
change the name of a sheet, and the property rules this out.
-/

namespace CellGraph

open SheetName (isBareChar unquote?)

namespace Text

/-! ## Dropping a character -/

@[simp] theorem without_nil (d : Char) : without d [] = [] := rfl

@[simp] theorem without_cons_self (d : Char) (t : Text) : without d (d :: t) = without d t := by
  simp [without]

theorem without_cons {d c : Char} (other : c ≠ d) (t : Text) :
    without d (c :: t) = c :: without d t := by
  simp [without, other]

@[simp] theorem without_append (d : Char) (t u : Text) :
    without d (t ++ u) = without d t ++ without d u :=
  List.filter_append t u

theorem without_of_not_mem {d : Char} {t : Text} (absent : d ∉ t) : without d t = t := by
  refine List.filter_eq_self.2 fun c member => decide_eq_true ?_
  rintro rfl
  exact absent member

theorem not_mem_without (d : Char) (t : Text) : d ∉ without d t := by
  simp [without]

/-- Dropping a character that ends no run leaves what stands behind the run. -/
theorem without_dropWhile {d : Char} {p : Char → Bool} (t : Text) :
    without d (t.dropWhile fun c => p c || c == d) = (without d t).dropWhile p := by
  induction t with
  | nil => rfl
  | cons c t ih =>
    by_cases dropped : c = d
    · simp [dropped, ih]
    · by_cases inside : p c
      · simp [without_cons dropped, inside, ih]
      · simp [without_cons dropped, inside, dropped]

/-! ## Where dollar signs stand -/

/-- A dollar sign of an address, given the character before it: in front of the letters, with no
letter before it, or between them and the digits. The word behind it names no sheet. -/
structure IsMark (before : Option Char) (behind : Text) : Prop where
  inside : (∃ c ∈ behind.head?, c.isUpper ∧ ∀ p ∈ before, isWordChar p → p.isDigit) ∨
    ∃ c ∈ behind.head?, c.isDigit ∧ ∀ p ∈ before, p.isUpper
  noSheet : (behind.dropWhile fun c => isBareChar c || c == '$').head? ≠ some '!'

/-- Whether all dollar signs of a text, which follows a given character, stand in addresses. -/
def Placed : Option Char → Text → Prop
  | _, [] => True
  | before, c :: t => (c = '$' → IsMark before t) ∧ Placed (some c) t

variable {before : Option Char} {t u : Text} {p c : Char}

theorem IsMark.head (mark : IsMark before (c :: t)) : c.isUpper ∨ c.isDigit := by
  obtain ⟨d, head, capital, -⟩ | ⟨d, head, digit, -⟩ := mark.inside
  · obtain rfl : c = d := by simpa using head
    exact .inl capital
  · obtain rfl : c = d := by simpa using head
    exact .inr digit

/-- No letter stands in front of a dollar sign in front of letters. -/
theorem IsMark.not_letter (mark : IsMark (some p) (c :: t)) (capital : c.isUpper) :
    isWordChar p → p.isDigit := by
  obtain ⟨d, -, -, noLetter⟩ | ⟨d, head, digit, -⟩ := mark.inside
  · exact noLetter p rfl
  · obtain rfl : c = d := by simpa using head
    exact absurd digit (not_isDigit_of_isUpper capital)

/-- Only a letter stands in front of a dollar sign in front of digits. -/
theorem IsMark.upper (mark : IsMark (some p) (c :: t)) (digit : c.isDigit) : p.isUpper := by
  obtain ⟨d, head, capital, -⟩ | ⟨d, -, -, capital⟩ := mark.inside
  · obtain rfl : c = d := by simpa using head
    exact absurd digit (not_isDigit_of_isUpper capital)
  · exact capital p rfl

theorem Placed.anywhere (placed : Placed before t) : Placed none t := by
  cases t with
  | nil => trivial
  | cons c t =>
    refine ⟨fun dollar => ?_, placed.2⟩
    obtain ⟨⟨d, head, capital, _⟩ | ⟨d, head, digit, _⟩, noSheet⟩ := placed.1 dollar
    · exact ⟨.inl ⟨d, head, capital, by simp⟩, noSheet⟩
    · exact ⟨.inr ⟨d, head, digit, by simp⟩, noSheet⟩

theorem Placed.of_append (placed : Placed before (t ++ u)) : Placed none u := by
  induction t generalizing before with
  | nil => exact placed.anywhere
  | cons c t ih => exact ih placed.2

/-- A text without dollar signs counts only with its last character. -/
theorem placed_append (free : '$' ∉ t) (placed : Placed (t.getLast?.or before) u) :
    Placed before (t ++ u) := by
  induction t generalizing before with
  | nil => exact placed
  | cons c t ih =>
    simp only [List.mem_cons, not_or] at free
    refine ⟨fun dollar => absurd dollar.symm free.1, ih free.2 ?_⟩
    rw [List.getLast?_cons, Option.some_or] at placed
    cases last : t.getLast? with
    | none => simpa [last] using placed
    | some d => simpa [last] using placed

/-- In front of a letter or a digit stands at most one dollar sign. -/
theorem Placed.marker (placed : Placed before t) (rest : without '$' t = c :: u) :
    ∃ mark t', Ref.IsMarker mark ∧ t = mark ++ c :: t' ∧ without '$' t' = u ∧
      Placed (some c) t' ∧ (mark = [] ∨ IsMark before (c :: t')) := by
  cases t with
  | nil => simp at rest
  | cons d t =>
    by_cases dollar : d = '$'
    · subst dollar
      have mark := placed.1 rfl
      cases t with
      | nil => simp at rest
      | cons e t =>
        have noDollar : e ≠ '$' := by
          rintro rfl
          exact absurd mark.head (by decide)
        rw [without_cons_self, without_cons noDollar, List.cons.injEq] at rest
        obtain ⟨rfl, rest⟩ := rest
        exact ⟨['$'], t, .inr rfl, rfl, rest, placed.2.2, .inr mark⟩
    · rw [without_cons dollar, List.cons.injEq] at rest
      obtain ⟨rfl, rest⟩ := rest
      exact ⟨[], t, .inl rfl, rfl, rest, placed.2, .inl rfl⟩

/-- A character that comes first once dollar signs are dropped came first before, or it is
a letter or a digit. -/
theorem Placed.head (placed : Placed before t) (first : c ∈ (without '$' t).head?) :
    c ∈ t.head? ∨ c.isUpper ∨ c.isDigit := by
  obtain ⟨u, rest⟩ := List.head?_eq_some_iff.1 first
  obtain ⟨mark, t', -, rfl, -, -, rfl | isMark⟩ := placed.marker rest
  · exact .inl rfl
  · exact .inr isMark.head

/-- Without a dollar sign in front, dropping dollar signs keeps the first character. -/
theorem head?_without (noDollar : t.head? ≠ some '$') : (without '$' t).head? = t.head? := by
  cases t with
  | nil => rfl
  | cons c t => simp [without_cons (show c ≠ '$' by simpa using noDollar)]

/-- No dollar sign divides the letters of an address. -/
theorem Placed.letters {column : Text} (placed : Placed (some p) t) (capital : p.isUpper)
    (letters : ∀ c ∈ column, c.isUpper) (rest : without '$' t = column ++ u) :
    ∃ t' q, t = column ++ t' ∧ without '$' t' = u ∧ q.isUpper ∧ Placed (some q) t' := by
  induction column generalizing t p with
  | nil => exact ⟨t, p, rfl, rest, capital, placed⟩
  | cons c column ih =>
    have isLetter : c.isUpper := letters c (by simp)
    obtain ⟨mark, t', -, rfl, rest', placed', rfl | isMark⟩ := placed.marker rest
    · obtain ⟨t'', q, rfl, behind⟩ :=
        ih placed' isLetter (fun d member => letters d (by simp [member])) rest'
      exact ⟨t'', q, rfl, behind⟩
    · have digit := isMark.not_letter isLetter (isWordChar_of_isUpper capital)
      exact absurd digit (not_isDigit_of_isUpper capital)

/-- No dollar sign divides the digits of an address, and none stands between them and a digit. -/
theorem Placed.digits {row : Text} (placed : Placed (some p) t) (digit : p.isDigit)
    (digits : ∀ c ∈ row, c.isDigit) (rest : without '$' t = row ++ u) :
    ∃ t' q, t = row ++ t' ∧ without '$' t' = u ∧ q.isDigit ∧ Placed (some q) t' := by
  induction row generalizing t p with
  | nil => exact ⟨t, p, rfl, rest, digit, placed⟩
  | cons c row ih =>
    have isDigit : c.isDigit := digits c (by simp)
    obtain ⟨mark, t', -, rfl, rest', placed', rfl | isMark⟩ := placed.marker rest
    · obtain ⟨t'', q, rfl, behind⟩ :=
        ih placed' isDigit (fun d member => digits d (by simp [member])) rest'
      exact ⟨t'', q, rfl, behind⟩
    · exact absurd digit (not_isDigit_of_isUpper (isMark.upper isDigit))

end Text

open Text (without Placed IsMark)

namespace Ref

variable {before : Option Char} {t rest written address name text : Text} {c : Char}

theorem continues_without (noDollar : t.head? ≠ some '$') :
    continues (without '$' t) = continues t := by
  cases t with
  | nil => rfl
  | cons c t =>
    rw [Text.without_cons (by simpa using noDollar)]
    rfl

/-- Behind a dollar sign a word goes on. -/
theorem head_ne_of_without (placed : Placed before t)
    (ends : continues (without '$' t) = false) : t.head? ≠ some '$' := by
  intro dollar
  obtain ⟨u, rfl⟩ := List.head?_eq_some_iff.1 dollar
  have mark := placed.1 rfl
  cases u with
  | nil => simpa using mark.inside
  | cons c u =>
    have bare : SheetName.isBareChar c := by
      rcases mark.head with capital | digit
      · exact SheetName.isBareChar_of_isUpper capital
      · exact SheetName.isBareChar_of_isDigit digit
    have noDollar : c ≠ '$' := by
      rintro rfl
      exact absurd bare (by decide)
    rw [Text.without_cons_self, Text.without_cons noDollar] at ends
    simp [continues, bare] at ends

/-- An address without dollar signs has no markers. -/
theorem IsAddress.plain (shape : IsAddress written address) (free : '$' ∉ written) :
    ∃ column row, written = column ++ row ∧ IsColumn column ∧ IsRow row := by
  cases shape with
  | @intro mark column mark' row first letters second digits =>
    have none : ∀ {m : Text}, IsMarker m → '$' ∉ m → m = [] := by
      rintro m (rfl | rfl) absent
      · rfl
      · simp at absent
    simp only [List.mem_append, not_or] at free
    obtain rfl := none first free.1.1.1
    obtain rfl := none second free.1.2
    exact ⟨column, row, by simp, letters, digits⟩

/-- Dropping dollar signs makes no address. -/
theorem isSome_scanAddress?_of_without (placed : Placed before t)
    (read : scanAddress? (without '$' t) = some (written, address, rest)) :
    (scanAddress? t).isSome := by
  obtain ⟨shape, whole, ends⟩ := isAddress_of_scanAddress? read
  have free : '$' ∉ written := fun dollar =>
    Text.not_mem_without '$' t (by rw [whole]; exact List.mem_append_left _ dollar)
  obtain ⟨column, row, rfl, letters, digits⟩ := shape.plain free
  obtain ⟨letter, column, rfl⟩ := List.exists_cons_of_ne_nil letters.some_letter
  obtain ⟨digit, row, rfl⟩ := List.exists_cons_of_ne_nil digits.some_digit
  simp only [List.cons_append, List.append_assoc] at whole
  obtain ⟨mark, t₁, first, rfl, rest₁, placed₁, -⟩ := placed.marker whole
  obtain ⟨t₂, q, rfl, rest₂, -, placed₂⟩ := placed₁.letters (letters.letters letter (by simp))
    (fun d member => letters.letters d (by simp [member])) rest₁
  obtain ⟨mark', t₃, second, rfl, rest₃, placed₃, -⟩ := placed₂.marker rest₂
  obtain ⟨t₄, q', rfl, rest₄, -, placed₄⟩ := placed₃.digits (digits.digits digit (by simp))
    (fun d member => digits.digits d (by simp [member])) rest₃
  rw [← rest₄] at ends
  rw [continues_without (head_ne_of_without placed₄ ends)] at ends
  have found := scanAddress?_text (.intro first letters second digits) ends
  simp only [List.append_assoc, List.cons_append] at found
  rw [found]
  rfl

end Ref

/-- Quotes stay where they are when dollar signs are dropped. -/
theorem SheetName.unquote?_without {before : Option Char} {t : Text} (placed : Placed before t) :
    unquote? (without '$' t) = (unquote? t).map (Prod.map (without '$') (without '$')) := by
  fun_induction unquote? t generalizing before with
  | case1 => rfl
  | case2 t ih =>
    rw [Text.without_cons (by decide), Text.without_cons (by decide), unquote?, ih placed.2.2]
    cases unquote? t with
    | none => rfl
    | some read => simp [Text.without_cons]
  | case3 t notPair =>
    have single : ∀ u, without '$' t ≠ '\'' :: u := by
      intro u same
      rcases placed.2.head (c := '\'') (by rw [same]; rfl) with first | capital | digit
      · obtain ⟨v, rfl⟩ := List.head?_eq_some_iff.1 first
        exact notPair v rfl rfl
      · exact absurd capital (by decide)
      · exact absurd digit (by decide)
    rw [Text.without_cons (by decide), unquote?.eq_3 _ _ fun u _ same => single u same]
    simp
  | case4 c t _ notQuote ih =>
    by_cases dollar : c = '$'
    · subst dollar
      rw [Text.without_cons_self, ih placed.2]
      cases unquote? t with
      | none => rfl
      | some read => simp [Prod.map]
    · rw [Text.without_cons dollar, unquote?.eq_3 _ _ fun u same => absurd same notQuote,
        if_neg notQuote, ih placed.2]
      cases unquote? t with
      | none => rfl
      | some read => simp [Text.without_cons dollar]

namespace Ref

variable {before : Option Char} {t rest written address name text : Text} {c : Char}

/-- Dropping dollar signs makes no bare sheet name. -/
theorem exists_dropWhile_of_without (placed : Placed before t)
    (bang : (without '$' t).dropWhile isBareChar = '!' :: rest) :
    ∃ behind, t.dropWhile isBareChar = '!' :: behind ∧ without '$' behind = rest := by
  have whole := List.takeWhile_append_dropWhile (p := isBareChar) (l := t)
  have bare := Text.takeWhile_inside (p := isBareChar) t
  have free : '$' ∉ t.takeWhile isBareChar := fun member => absurd (bare _ member) (by decide)
  rw [← whole] at placed bang
  rw [Text.without_append, Text.without_of_not_mem free, List.dropWhile_append_of_pos bare] at bang
  have stop := Text.dropWhile_stop (p := isBareChar) t
  cases same : t.dropWhile isBareChar with
  | nil => simp [same] at bang
  | cons d u =>
    rw [same] at placed bang stop
    by_cases dollar : d = '$'
    · subst dollar
      -- the word goes on behind the dollar sign, up to the exclamation mark
      rw [Text.without_cons_self, ← Text.without_dropWhile] at bang
      have noSheet := (placed.of_append.1 rfl).noSheet
      have ends := Text.dropWhile_stop (p := fun c => isBareChar c || c == '$') u
      cases behind : u.dropWhile fun c => isBareChar c || c == '$' with
      | nil => simp [behind] at bang
      | cons e v =>
        rw [behind] at bang noSheet ends
        have noDollar : e ≠ '$' := by
          rintro rfl
          simpa using ends '$' rfl
        rw [Text.without_cons noDollar, List.cons.injEq] at bang
        exact absurd (by rw [bang.1]; rfl) noSheet
    · have noWord : isBareChar d = false := stop d rfl
      rw [Text.without_cons dollar, List.dropWhile_cons_of_neg (by simp [noWord]),
        List.cons.injEq] at bang
      exact ⟨u, by rw [bang.1], bang.2⟩

/-- What stands behind a quoted sheet name stands there before the dollar signs are dropped. -/
theorem exists_unquote?_of_without {d : Char} (placed : Placed before t)
    (read : unquote? (without '$' t) = some (d :: name, '!' :: rest)) :
    ∃ e inside behind, unquote? t = some (e :: inside, '!' :: behind) ∧
      without '$' behind = rest := by
  rw [SheetName.unquote?_without placed, Option.map_eq_some_iff] at read
  obtain ⟨⟨inside, behind⟩, found, same⟩ := read
  simp only [Prod.map_apply, Prod.mk.injEq] at same
  obtain ⟨named, bang⟩ := same
  cases inside with
  | nil => cases named
  | cons e inside =>
    have whole := SheetName.eq_of_unquote? found
    rw [← List.singleton_append (l := behind), ← List.append_assoc] at whole
    rw [whole] at placed
    have first : '!' ∈ behind.head? := by
      rcases placed.of_append.head (c := '!') (by rw [bang]; rfl) with first | capital | digit
      · exact first
      · exact absurd capital (by decide)
      · exact absurd digit (by decide)
    obtain ⟨behind, rfl⟩ := List.head?_eq_some_iff.1 first
    rw [Text.without_cons (by decide), List.cons.injEq] at bang
    exact ⟨e, inside, behind, found, bang.2⟩

/-- Dropping dollar signs makes no sheet name in front of a text. -/
theorem exists_scanSheet?_of_without (placed : Placed before (c :: t))
    (read : scanSheet? (c :: without '$' t) = some (name, text, rest)) :
    ∃ name' text' behind, scanSheet? (c :: t) = some (name', text', behind) ∧
      without '$' behind = rest := by
  simp only [scanSheet?] at read ⊢
  by_cases quote : c = '\''
  · rw [if_pos quote] at read ⊢
    split at read
    · next d inside rest found =>
      cases read
      obtain ⟨e, inside', behind, found', same⟩ := exists_unquote?_of_without placed.2 found
      exact ⟨_, _, behind, by rw [found']; rfl, same⟩
    · cases read
  · rw [if_neg quote] at read ⊢
    by_cases word : Text.isWordChar c
    · rw [if_pos word] at read ⊢
      split at read
      · next rest bang =>
        cases read
        obtain ⟨behind, found, same⟩ := exists_dropWhile_of_without placed.2 bang
        exact ⟨_, _, behind, by rw [found]; rfl, same⟩
      · cases read
    · rw [if_neg word] at read
      cases read

/-- Dropping dollar signs makes no reference. -/
theorem scan?_without_eq_none (placed : Placed before (c :: t)) (noDollar : c ≠ '$')
    (none : scan? (c :: t) = none) : scan? (c :: without '$' t) = Option.none := by
  rw [scan?, Option.or_eq_none_iff] at none
  rw [scan?, Option.or_eq_none_iff]
  constructor
  · cases read : scanSheet? (c :: without '$' t) with
    | none => simp [scanOnSheet?, read]
    | some sheet =>
      obtain ⟨name, text, rest⟩ := sheet
      obtain ⟨name', text', behind, found, rfl⟩ := exists_scanSheet?_of_without placed read
      rw [eq_of_scanSheet? found] at placed
      cases addressRead : scanAddress? (without '$' behind) with
      | none => simp [scanOnSheet?, read, addressRead]
      | some address =>
        obtain ⟨address, addressFound⟩ :=
          Option.isSome_iff_exists.1 (isSome_scanAddress?_of_without placed.of_append addressRead)
        simp [scanOnSheet?, found, addressFound] at none
  · cases addressRead : scanAddress? (c :: without '$' t) with
    | none => simp [scanLocal?, addressRead]
    | some address =>
      rw [← Text.without_cons noDollar] at addressRead
      obtain ⟨address, addressFound⟩ :=
        Option.isSome_iff_exists.1 (isSome_scanAddress?_of_without placed addressRead)
      simp [scanLocal?, addressFound] at none

end Ref

/-- Dropping dollar signs makes no exponent, unless of the letters of an address. -/
theorem Exponent.scan_without {before : Option Char} {t : Text} (placed : Placed before t)
    (noDollar : t.head? ≠ some '$') (noColumn : ∀ u, t ≠ 'E' :: '$' :: u)
    (none : scan Char.isDigit t = (none, t)) :
    scan Char.isDigit (without '$' t) = (Option.none, without '$' t) := by
  rw [scan_eq_none_iff] at none ⊢
  rintro ⟨mark, sign, digits⟩ rest formed same
  obtain ⟨d, digits, rfl⟩ := List.exists_cons_of_ne_nil formed.some_digit
  have digit : d.isDigit := formed.digits d (by simp)
  have single : ∀ c ∈ [d], c.isDigit := by simpa using digit
  simp only [Exponent.text, List.append_assoc, List.cons_append] at same
  obtain ⟨m, t₁, rfl | rfl, rfl, rest₁, placed₁, -⟩ := placed.marker same
  · cases sign with
    | none =>
      obtain ⟨m', t₂, second, rfl, -, -, rfl | isMark⟩ := placed₁.marker rest₁
      · exact none ⟨mark, .none, [d]⟩ t₂ ⟨formed.mark, by simp, single, by simp⟩ rfl
      · -- the mark of the exponent is the column of the address
        obtain rfl : mark = 'E' := by
          rcases formed.mark with rfl | rfl
          · exact absurd (isMark.upper digit) (by decide)
          · rfl
        rcases second with rfl | rfl
        · exact none ⟨'E', .none, [d]⟩ t₂ ⟨formed.mark, by simp, single, by simp⟩ rfl
        · exact noColumn _ rfl
    | some s =>
      have isSign := formed.sign s rfl
      obtain ⟨m', t₂, -, rfl, rest₂, placed₂, rfl | isMark⟩ := placed₁.marker rest₁
      · obtain ⟨m'', t₃, -, rfl, -, -, rfl | isMark⟩ := placed₂.marker rest₂
        · exact none ⟨mark, some s, [d]⟩ t₃ ⟨formed.mark, formed.sign, single, by simp⟩ rfl
        · have capital := isMark.upper digit
          rcases isSign with rfl | rfl <;> exact absurd capital (by decide)
      · have first := isMark.head
        rcases isSign with rfl | rfl <;> exact absurd first (by decide)
  · simp at noDollar

end CellGraph
