import CellGraph.Codec.Utf
import CellGraph.Json.Basic
import CellGraph.Numeral.Literal
import CellGraph.Text.Digit

/-!
# Reading JSON

A text is cut into lexemes, and the lexemes are read in one pass with a stack of the arrays and
objects that are open. Besides standard JSON the words `NaN`, `Infinity` and `-Infinity` are
numbers. A string must not hold a bare control character, nor half of a surrogate pair.
-/

namespace CellGraph.Json

/-- A lexeme: a punctuation character or a value without parts. -/
inductive Lexeme where
  | punctuation (c : Char)
  | scalar (v : Json)
  deriving Repr

/-! ## Strings -/

def hexValue? (c : Char) : Option Nat :=
  if c.isDigit then some (c.toNat - 48)
  else if 'a' ≤ c && c ≤ 'f' then some (c.toNat - 87)
  else if 'A' ≤ c && c ≤ 'F' then some (c.toNat - 55)
  else none

/-- The code unit that four hexadecimal digits write. -/
def unit? (a b c d : Char) : Option Nat := do
  return (((← hexValue? a) * 16 + (← hexValue? b)) * 16 + (← hexValue? c)) * 16 + (← hexValue? d)

/-- The character that a letter behind a backslash stands for. -/
def escaped? (c : Char) : Option Char :=
  match c with
  | '"' => some '"'
  | '\\' => some '\\'
  | '/' => some '/'
  | 'b' => some '\x08'
  | 'f' => some '\x0c'
  | 'n' => some '\n'
  | 'r' => some '\r'
  | 't' => some '\t'
  | _ => none

/-- The code units of a string up to its closing quote, and the rest. A character that is not
escaped counts as one unit. -/
def scanUnits? : Text → Option (List Nat × Text)
  | '\\' :: 'u' :: a :: b :: c :: d :: t => do
    let n ← unit? a b c d
    let (units, rest) ← scanUnits? t
    return (n :: units, rest)
  | '\\' :: c :: t => do
    let e ← escaped? c
    let (units, rest) ← scanUnits? t
    return (e.toNat :: units, rest)
  | c :: t =>
    if c = '"' then some ([], t)
    else if c.toNat < 0x20 ∨ c = '\\' then none
    else do
      let (units, rest) ← scanUnits? t
      return (c.toNat :: units, rest)
  | [] => none

theorem length_scanUnits? {t rest : Text} {units : List Nat}
    (h : scanUnits? t = some (units, rest)) : rest.length < t.length := by
  fun_induction scanUnits? t generalizing units rest with
  | case1 a b c d t ih | case2 c t _ ih =>
    simp only [Option.bind_eq_bind, Option.bind_eq_some_iff, Option.pure_def] at h
    obtain ⟨_, _, ⟨units', rest'⟩, found, same⟩ := h
    cases same
    have := ih found
    simp only [List.length_cons]
    omega
  | case3 => cases h; simp
  | case4 => simp at h
  | case5 =>
    rename_i ih
    simp only [Option.bind_eq_bind, Option.bind_eq_some_iff, Option.pure_def] at h
    obtain ⟨⟨units', rest'⟩, found, same⟩ := h
    cases same
    have := ih found
    simp only [List.length_cons]
    omega
  | case6 => simp at h

/-! ## Numbers and words -/

/-- The digits before the point: a zero stands alone. -/
def scanWhole : Text → Text × Text
  | '0' :: t => (['0'], t)
  | t => (t.takeWhile Char.isDigit, t.dropWhile Char.isDigit)

/-- The digits behind a point, if a point with digits follows. -/
def scanFraction : Text → Option Text × Text
  | '.' :: t =>
    if t.takeWhile Char.isDigit = [] then (none, '.' :: t)
    else (some (t.takeWhile Char.isDigit), t.dropWhile Char.isDigit)
  | t => (none, t)

/-- A number without its sign, and the rest. One without point and exponent is an integer. -/
def scanNumber? (negative : Bool) (t : Text) : Option (Json × Text) :=
  let (whole, t₁) := scanWhole t
  let (fraction, t₂) := scanFraction t₁
  let (exponent, rest) := Exponent.scan Char.isDigit t₂
  if whole = [] then none
  else if fraction.isNone && exponent.isNone then
    let n : Int := Text.natOfDigits whole
    some (.int (if negative then -n else n), rest)
  else some (.float (Literal.value negative ⟨whole, fraction, exponent⟩), rest)

def words : List (Text × Json) :=
  [("null", .null), ("true", .bool true), ("false", .bool false), ("NaN", .float .nan),
    ("Infinity", .float (.infinite false)), ("-Infinity", .float (.infinite true))]

/-- A word at the start of a text, and the rest. -/
def scanWord? (t : Text) : Option (Json × Text) :=
  words.findSome? fun (word, v) => (Text.after? word t).map (v, ·)

def isSpace (c : Char) : Bool := c = ' ' || c = '\t' || c = '\n' || c = '\r'

/-- The lexeme at the start of a text that starts with neither white space nor the end, and the
rest. -/
def scan? (c : Char) (t : Text) : Option (Lexeme × Text) :=
  if ("[]\x7b\x7d,:" : Text).contains c then some (.punctuation c, t)
  else if c = '"' then do
    let (units, rest) ← scanUnits? t
    let s ← Utf.joinUnits? units
    return (.scalar (.string s), rest)
  else match scanWord? (c :: t) with
    | some (v, rest) => some (.scalar v, rest)
    | none =>
      (if c = '-' then scanNumber? true t else scanNumber? false (c :: t)).map fun (v, rest) =>
        (.scalar v, rest)

theorem length_scanWhole (t : Text) :
    (scanWhole t).1.length + (scanWhole t).2.length = t.length := by
  unfold scanWhole
  split
  · simp [Nat.add_comm]
  · rw [← List.length_append, List.takeWhile_append_dropWhile]

theorem length_scanFraction (t : Text) : (scanFraction t).2.length ≤ t.length := by
  unfold scanFraction
  split
  · split
    · simp
    · simpa using Nat.le_succ_of_le (List.dropWhile_sublist _).length_le
  · simp

theorem length_scanExponent (digit : Char → Bool) (t : Text) :
    (Exponent.scan digit t).2.length ≤ t.length := by
  have whole := congrArg List.length (Exponent.text_append_scan digit t)
  simp only [List.length_append] at whole
  omega

theorem length_scanNumber? {negative : Bool} {t rest : Text} {v : Json}
    (h : scanNumber? negative t = some (v, rest)) : rest.length < t.length := by
  have whole := length_scanWhole t
  have fraction := length_scanFraction (scanWhole t).2
  have exponent := length_scanExponent Char.isDigit (scanFraction (scanWhole t).2).2
  have tail : (scanWhole t).1 ≠ [] ∧
      rest = (Exponent.scan Char.isDigit (scanFraction (scanWhole t).2).2).2 := by
    unfold scanNumber? at h
    dsimp only at h
    split at h
    · simp at h
    · next some_ =>
      split at h <;> cases h <;> exact ⟨some_, rfl⟩
  have positive := List.length_pos_iff.2 tail.1
  rw [tail.2]
  omega

theorem length_scanWord? {t rest : Text} {v : Json} (h : scanWord? t = some (v, rest)) :
    rest.length < t.length := by
  obtain ⟨⟨word, w⟩, isWord, found⟩ := List.exists_of_findSome?_eq_some h
  obtain ⟨rest', found, same⟩ := Option.map_eq_some_iff.1 found
  cases same
  unfold Text.after? at found
  split at found
  · next isPrefix =>
    cases found
    have long := (List.isPrefixOf_iff_prefix.1 isPrefix).length_le
    have positive : 0 < word.length := by
      revert isWord
      simp only [words, List.mem_cons, Prod.mk.injEq, List.not_mem_nil, or_false]
      rintro (⟨rfl, _⟩ | ⟨rfl, _⟩ | ⟨rfl, _⟩ | ⟨rfl, _⟩ | ⟨rfl, _⟩ | ⟨rfl, _⟩) <;> simp
    simp only [List.length_drop]
    omega
  · simp at found

theorem length_scan? {c : Char} {t rest : Text} {l : Lexeme}
    (h : scan? c t = some (l, rest)) : rest.length ≤ t.length := by
  unfold scan? at h
  split at h
  · cases h; exact Nat.le_refl _
  · split at h
    · simp only [Option.bind_eq_bind, Option.bind_eq_some_iff, Option.pure_def] at h
      obtain ⟨⟨units, rest'⟩, found, s, _, same⟩ := h
      cases same
      exact Nat.le_of_lt (length_scanUnits? found)
    · split at h
      · next found =>
        cases h
        exact Nat.lt_succ_iff.1 (length_scanWord? found)
      · obtain ⟨⟨v, rest'⟩, found, same⟩ := Option.map_eq_some_iff.1 h
        cases same
        split at found
        · exact Nat.le_of_lt (length_scanNumber? found)
        · exact Nat.lt_succ_iff.1 (length_scanNumber? found)

/-- The lexemes of a text; none if it cannot be cut. -/
def lexemes? : Text → Option (List Lexeme)
  | [] => some []
  | c :: t =>
    if isSpace c then lexemes? t
    else match _found : scan? c t with
      | none => none
      | some (l, rest) => (lexemes? rest).map (l :: ·)
termination_by t => t.length
decreasing_by
  · simp
  · exact Nat.lt_succ_of_le (length_scan? _found)

/-! ## Structure -/

/-- An array or object that is open, with its items or members so far in reverse. An object waits
for the value of a member. -/
inductive Frame where
  | array (done : List Json)
  | object (done : List (Text × Json)) (name : Text)

/-- What has been read, and what may come next. -/
inductive State where
  /-- A value; or the end of the array that has just opened. -/
  | value (open_ : List Frame) (mayEnd : Bool)
  /-- The name of a member; or the end of the object that has just opened. -/
  | name (done : List (Text × Json)) (open_ : List Frame) (mayEnd : Bool)
  /-- A colon behind a name. -/
  | colon (done : List (Text × Json)) (name : Text) (open_ : List Frame)
  /-- A comma or a closing bracket behind a value, or the end of the text. -/
  | after (v : Json) (open_ : List Frame)

namespace State

def step : State → Lexeme → Option State
  | .value open_ _, .scalar v => some (.after v open_)
  | .value open_ _, .punctuation '[' => some (.value (.array [] :: open_) true)
  | .value open_ _, .punctuation '\x7b' => some (.name [] open_ true)
  | .value (.array _ :: open_) true, .punctuation ']' => some (.after (.array []) open_)
  | .name done open_ _, .scalar (.string key) => some (.colon done key open_)
  | .name done open_ true, .punctuation '\x7d' => some (.after (.object done.reverse) open_)
  | .colon done key open_, .punctuation ':' => some (.value (.object done key :: open_) false)
  | .after v (.array done :: open_), .punctuation ',' =>
    some (.value (.array (v :: done) :: open_) false)
  | .after v (.array done :: open_), .punctuation ']' =>
    some (.after (.array (v :: done).reverse) open_)
  | .after v (.object done key :: open_), .punctuation ',' =>
    some (.name ((key, v) :: done) open_ false)
  | .after v (.object done key :: open_), .punctuation '\x7d' =>
    some (.after (.object ((key, v) :: done).reverse) open_)
  | _, _ => none

/-- The value that has been read, if it is complete. -/
def result? : State → Option Json
  | .after v [] => some v
  | _ => none

end State

def read? (t : Text) : Option Json := do
  let ls ← lexemes? t
  let s ← ls.foldlM State.step (.value [] false)
  s.result?

end CellGraph.Json
