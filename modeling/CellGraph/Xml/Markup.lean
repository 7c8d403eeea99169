import CellGraph.Text.Digit
import CellGraph.Xml.Encoding

/-!
# XML markup

A text is cut into pieces: start and end tags, character data, references, comments, processing
instructions and a document type declaration. References to characters are resolved; those to
entities are kept. Where a piece breaks the rules of its kind the pieces end.
-/

namespace CellGraph.Markup

/-- A character of data or of a value, or a reference to an entity. -/
inductive Part where
  | char (c : Char)
  | entity (name : Text)
  deriving DecidableEq, Repr

/-- A piece of an XML text. Character data is `plain` if it was nothing but white space as
written. -/
inductive Piece where
  | open_ (name : Text) (attributes : List (Text × List Part)) (closed : Bool)
  | close (name : Text)
  | data (t : Text) (plain : Bool)
  | reference (entity : Text)
  | comment
  | instruction
  /-- A document type declaration by the text behind its first word. -/
  | doctype (t : Text)
  /-- What follows is no piece. -/
  | broken
  deriving DecidableEq, Repr

/-! ## References -/

def hexValue? (c : Char) : Option Nat :=
  if c.isDigit then some (c.toNat - 48)
  else if 'a' ≤ c ∧ c ≤ 'f' then some (c.toNat - 87)
  else if 'A' ≤ c ∧ c ≤ 'F' then some (c.toNat - 55)
  else none

/-- The legal character with a code point. -/
def charOf? (n : Nat) : Option Char :=
  if h : n.isValidChar then
    let c := Char.ofNatAux n h
    if isLegal c then some c else none
  else none

/-- What a reference means, by what stands between its ampersand and semicolon. -/
def reference? : Text → Option Part
  | '#' :: 'x' :: digits => do
    if digits = [] then none
    return .char (← charOf? ((← digits.mapM hexValue?).foldl (fun n d => 16 * n + d) 0))
  | '#' :: digits => do
    if digits = [] ∨ ¬ digits.all Char.isDigit then none
    return .char (← charOf? (Text.natOfDigits digits))
  | name =>
    match [(("lt" : Text), '<'), ("gt", '>'), ("amp", '&'), ("quot", '"'),
        ("apos", '\'')].lookup name with
    | some c => some (.char c)
    | none =>
      match name? name with
      | some (_, []) => some (.entity name)
      | _ => none

/-- The parts of a text; `pending` holds a reference that has begun, backwards, and `done` the parts
in front, backwards. -/
def partsAfter? (done : List Part) (pending : Option Text) : Text → Option (List Part)
  | [] => if pending = none then some done.reverse else none
  | c :: t =>
    match pending with
    | none => if c = '&' then partsAfter? done (some []) t else partsAfter? (.char c :: done) none t
    | some name =>
      if c = ';' then do
        partsAfter? ((← reference? name.reverse) :: done) none t
      else partsAfter? done (some (c :: name)) t

def parts? (t : Text) : Option (List Part) := partsAfter? [] none t

/-- The parts of the value of an attribute: white space as written counts as spaces. -/
def value? (written : Text) : Option (List Part) :=
  if written.contains '<' then none
  else parts? (written.map fun c => if isSpace c then ' ' else c)

/-! ## Tags -/

/-- The inside of a tag up to its closing bracket, behind the characters `done` backwards, and the
rest. Brackets between quotes do not count. -/
def cutTag? (quote : Option Char) (done : Text) : Text → Option (Text × Text)
  | [] => none
  | c :: t =>
    if quote = none ∧ c = '>' then some (done.reverse, t)
    else
      let quote := match quote with
        | none => if c = '"' ∨ c = '\'' then some c else none
        | some q => if c = q then none else some q
      cutTag? quote (c :: done) t

/-- An attribute after white space at the start of a text, and the rest. -/
def attribute? (t : Text) : Option ((Text × List Part) × Text) :=
  match t with
  | c :: t =>
    if isSpace c then do
      let (name, t) ← qualified? (t.dropWhile isSpace)
      match t.dropWhile isSpace with
      | '=' :: t =>
        match t.dropWhile isSpace with
        | q :: t =>
          if q = '"' ∨ q = '\'' then do
            let (written, rest) ← cut? [q] [] t
            return ((name, ← value? written), rest)
          else none
        | [] => none
      | _ => none
    else none
  | [] => none

theorem length_cutTag? {quote : Option Char} {done t head rest : Text}
    (h : cutTag? quote done t = some (head, rest)) : rest.length ≤ t.length := by
  induction t generalizing quote done with
  | nil => simp [cutTag?] at h
  | cons c t ih =>
    unfold cutTag? at h
    split at h
    · cases h; simp
    · exact Nat.le_succ_of_le (ih h)

theorem length_attribute? {t rest : Text} {a : Text × List Part}
    (h : attribute? t = some (a, rest)) : rest.length < t.length := by
  unfold attribute? at h
  split at h
  · next c t =>
    split at h
    · simp only [Option.bind_eq_bind, Option.bind_eq_some_iff] at h
      obtain ⟨⟨name, t₁⟩, named, h⟩ := h
      have le₁ := length_qualified? named
      have le₀ := length_dropWhile isSpace t
      simp only at h
      split at h
      · next t₂ equals =>
        have le₂ := length_dropWhile isSpace t₁
        rw [equals, List.length_cons] at le₂
        split at h
        · next q t₃ quote =>
          have le₃ := length_dropWhile isSpace t₂
          rw [quote, List.length_cons] at le₃
          split at h
          · simp only [Option.bind_eq_some_iff, Option.pure_def, Option.some.injEq,
              Prod.mk.injEq] at h
            obtain ⟨⟨written, rest'⟩, found, value, _, _, rfl⟩ := h
            have le₄ := length_cut? found
            simp only [List.length_cons]; omega
          · simp at h
        · simp at h
      · simp at h
    · simp at h
  · simp at h

/-- The attributes of a tag; white space may follow them. -/
def attributes? (t : Text) : Option (List (Text × List Part)) :=
  if t.all isSpace then some []
  else match _h : attribute? t with
    | some (a, rest) => (attributes? rest).map (a :: ·)
    | none => none
termination_by t.length
decreasing_by exact length_attribute? ‹_›

/-- A tag by what stands between its brackets. -/
def tag? (inner : Text) : Option Piece :=
  match inner with
  | '/' :: inner => do
    let (name, rest) ← qualified? inner
    if rest.all isSpace then some (.close name) else none
  | inner => do
    let closed := inner.getLast? = some '/'
    let (name, rest) ← qualified? (if closed then inner.dropLast else inner)
    return .open_ name (← attributes? rest) closed

/-! ## Other markup -/

/-- A comment by its text, in which no two hyphens may meet. -/
def comment? (t : Text) : Option Piece :=
  if (cut? "--" [] t).isSome ∨ t.getLast? = some '-' then none else some .comment

/-- A processing instruction: a target, and after white space its content. The word `xml` is no
target in whatever letter case. -/
def instruction? (t : Text) : Option Piece := do
  let (target, rest) ← name? t
  if target.map Char.toLower ≠ "xml" ∧ (rest = [] ∨ rest.head?.any isSpace) then some .instruction
  else none

/-- Where the end of a document type declaration is sought: behind its name, or among the
declarations inside its brackets. -/
inductive Inside where
  | outer
  | inner
  /-- In a comment, with the number of its characters so far. -/
  | comment (length : Nat)
  | instruction
  deriving DecidableEq, Repr

/-- The inside of a document type declaration, behind the characters `done` backwards, and the
rest. Brackets between quotes, in comments and in instructions do not count. -/
def cutDoctype? (at_ : Inside) (quote : Option Char) (done : Text) : Text → Option (Text × Text)
  | [] => none
  | c :: t =>
    match at_, quote with
    | .outer, none =>
      if c = '>' then some (done.reverse, t)
      else if c = '"' ∨ c = '\'' then cutDoctype? .outer (some c) (c :: done) t
      else cutDoctype? (if c = '[' then .inner else .outer) none (c :: done) t
    | .inner, none =>
      if c = '"' ∨ c = '\'' then cutDoctype? .inner (some c) (c :: done) t
      else if c = ']' then cutDoctype? .outer none (c :: done) t
      else if (Text.after? "--!<" (c :: done)).isSome then
        cutDoctype? (.comment 0) none (c :: done) t
      else if (Text.after? "?<" (c :: done)).isSome then
        cutDoctype? .instruction none (c :: done) t
      else cutDoctype? .inner none (c :: done) t
    | .comment length, _ =>
      cutDoctype?
        (if 2 ≤ length ∧ (Text.after? ">--" (c :: done)).isSome then .inner
          else .comment (length + 1))
        none (c :: done) t
    | .instruction, _ =>
      cutDoctype? (if (Text.after? ">?" (c :: done)).isSome then .inner else .instruction) none
        (c :: done) t
    | at_, some q => cutDoctype? at_ (if c = q then none else some q) (c :: done) t

/-- The markup behind an opening bracket, and the rest. -/
def markup? (t : Text) : Option (Piece × Text) :=
  match Text.after? "!--" t, Text.after? "![CDATA[" t, Text.after? "?" t,
      Text.after? "!DOCTYPE" t with
  | some _, _, _, _ => do
    let (inner, rest) ← cut? "-->" [] (t.drop 3)
    return (← comment? inner, rest)
  | _, some _, _, _ => do
    let (inner, rest) ← cut? "]]>" [] (t.drop 8)
    return (.data inner false, rest)
  | _, _, some _, _ => do
    let (inner, rest) ← cut? "?>" [] (t.drop 1)
    return (← instruction? inner, rest)
  | _, _, _, some _ => do
    let (inner, rest) ← cutDoctype? .outer none [] (t.drop 8)
    return (.doctype inner, rest)
  | _, _, _, _ => do
    let (inner, rest) ← cutTag? none [] t
    return (← tag? inner, rest)

theorem length_cutDoctype? {at_ : Inside} {quote : Option Char} {done t head rest : Text}
    (h : cutDoctype? at_ quote done t = some (head, rest)) : rest.length ≤ t.length := by
  induction t generalizing at_ quote done with
  | nil => simp [cutDoctype?] at h
  | cons c t ih =>
    unfold cutDoctype? at h
    split at h <;> (repeat' split at h) <;>
      first
        | (cases h; simp)
        | exact Nat.le_succ_of_le (ih h)

theorem length_markup? {t rest : Text} {p : Piece} (h : markup? t = some (p, rest)) :
    rest.length ≤ t.length := by
  unfold markup? at h
  split at h <;>
    simp only [Option.bind_eq_bind, Option.bind_eq_some_iff, Option.pure_def, Option.some.injEq,
      Prod.mk.injEq] at h
  case h_1 | h_3 =>
    obtain ⟨⟨inner, rest'⟩, found, q, _, _, rfl⟩ := h
    have := length_cut? found
    simp only [List.length_drop] at this ⊢; omega
  case h_2 =>
    obtain ⟨⟨inner, rest'⟩, found, _, rfl⟩ := h
    have := length_cut? found
    simp only [List.length_drop] at this ⊢; omega
  case h_4 =>
    obtain ⟨⟨inner, rest'⟩, found, _, rfl⟩ := h
    have := length_cutDoctype? found
    simp only [List.length_drop] at this ⊢; omega
  case h_5 =>
    obtain ⟨⟨inner, rest'⟩, found, q, _, _, rfl⟩ := h
    exact length_cutTag? found

/-! ## Pieces -/

/-- A part in front of pieces of character data and references. -/
def consPart (p : Part) (pieces : List Piece) : List Piece :=
  match p, pieces with
  | .entity name, pieces => .reference name :: pieces
  | .char c, .data t _ :: others => .data (c :: t) false :: others
  | .char c, others => .data [c] false :: others

def data? (t : Text) : Option (List Piece) :=
  if (cut? "]]>" [] t).isSome then none
  else if t.contains '&' then (parts? t).map fun parts => parts.foldr consPart []
  else some [.data t (t.all isSpace)]

/-- The pieces of a text behind those in `done`, which are backwards. -/
def piecesAfter (done : List Piece) (t : Text) : List Piece :=
  match t with
  | [] => done.reverse
  | c :: t =>
    if c = '<' then
      match _h : markup? t with
      | some (p, rest) => piecesAfter (p :: done) rest
      | none => (.broken :: done).reverse
    else
      match data? (c :: t.takeWhile (· ≠ '<')) with
      | some ps => piecesAfter (ps.reverse ++ done) (t.dropWhile (· ≠ '<'))
      | none => (.broken :: done).reverse
termination_by t.length
decreasing_by
  · have := length_markup? ‹_›; simp only [List.length_cons]; omega
  · have := length_dropWhile (· ≠ '<') t; simp only [List.length_cons]; omega

def pieces (t : Text) : List Piece := piecesAfter [] t

end CellGraph.Markup
