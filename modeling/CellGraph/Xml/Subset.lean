import CellGraph.Xml.Doctype

/-!
# Document type declarations

The text of a document type declaration is cut into tokens, which are grouped into declarations of
entities, attributes, elements and notations. All must keep the rules of XML; entities and
attributes are remembered.
-/

namespace CellGraph.Markup

/-- A token of a document type declaration. Names and groups may carry a mark of repetition. -/
inductive DoctypeToken where
  /-- The start of a declaration, with its first word. -/
  | start (word : Text)
  | close
  | literal (t : Text)
  | name (t : Text) (mark : Option Char)
  /-- Characters of names that make no name. -/
  | word (t : Text)
  /-- A reference to declarations elsewhere. -/
  | elsewhere
  | percent
  | hash (t : Text)
  | openGroup
  | closeGroup (mark : Option Char)
  | bar
  | comma
  | openSubset
  | closeSubset
  /-- A comment or a processing instruction. -/
  | aside
  deriving DecidableEq, Repr

/-! ## Tokens -/

/-- What a run of characters of names makes. -/
inductive NameKind where
  | name
  | qualified
  | word
  deriving DecidableEq, Repr

/-- The kind of a run of characters of names, the run and the rest; `done` holds the characters in
front, backwards. -/
def scanWord (kind : NameKind) (done : Text) : Text → NameKind × Text × Text
  | [] => (kind, done.reverse, [])
  | c :: t =>
    if isNameChar c then scanWord kind (c :: done) t
    else if c = ':' then
      let kind := if kind = .name ∧ t.head?.any isNameChar then .qualified else .word
      scanWord kind (c :: done) t
    else (kind, done.reverse, c :: t)

/-- Whether a text ends or goes on with white space or one of the given characters. -/
def isFollowed (by_ : Text) (t : Text) : Bool := t.head?.all fun c => isSpace c || by_.contains c

/-- What a run of characters of names is, and the rest. -/
def nameToken? (t : Text) : Option (DoctypeToken × Text) :=
  let (kind, run, rest) := scanWord (if t.head?.any isNameStart then .name else .word) [] t
  if run = [] then none
  else if isFollowed ">),|[%" rest then
    some (if kind = .word then .word run else .name run none, rest)
  else match rest with
    | mark :: rest =>
      if kind ≠ .word ∧ ("?*+" : Text).contains mark then some (.name run mark, rest) else none
    | [] => none

/-- The token at the start of a text, and the rest; white space makes no token. -/
def doctypeToken? (t : Text) : Option (Option DoctypeToken × Text) :=
  match t with
  | '<' :: '!' :: '-' :: '-' :: t => do
    let (inner, rest) ← cut? "-->" [] t
    let _ ← comment? inner
    return (some .aside, rest)
  | '<' :: '?' :: t => do
    let (inner, rest) ← cut? "?>" [] t
    let _ ← instruction? inner
    return (some .aside, rest)
  | '<' :: '!' :: t =>
    let word := t.takeWhile fun c => c.isAlpha || c == '_'
    let rest := t.drop word.length
    if word ≠ [] ∧ rest.head?.any isSpace then some (some (.start word), rest) else none
  | '%' :: t =>
    if t.head?.any fun c => isSpace c || c = '%' then some (some .percent, t)
    else match name? t with
      | some (_, ';' :: rest) => some (some .elsewhere, rest)
      | _ => none
  | '#' :: t => do
    let (name, rest) ← name? t
    if isFollowed ")>%|" rest then return (some (.hash name), rest) else none
  | ')' :: mark :: t =>
    if ("?*+" : Text).contains mark then some (some (.closeGroup mark), t)
    else if isFollowed ">,|)" (mark :: t) then some (some (.closeGroup none), mark :: t)
    else none
  | ']' :: t =>
    if (Text.after? "]>" t).isSome then none else some (some .closeSubset, t)
  | '(' :: t => some (some .openGroup, t)
  | '|' :: t => some (some .bar, t)
  | ',' :: t => some (some .comma, t)
  | '[' :: t => some (some .openSubset, t)
  | '>' :: t => some (some .close, t)
  | c :: t =>
    if isSpace c then some (none, t)
    else if c = '"' ∨ c = '\'' then do
      let (inner, rest) ← cut? [c] [] t
      if isFollowed ">%[" rest then return (some (.literal inner), rest) else none
    else (nameToken? (c :: t)).map fun (token, rest) => (some token, rest)
  | [] => none

/-- The tokens of a text of at most `length` characters; each takes up at least one. -/
def doctypeTokens? (length : Nat) (t : Text) : Option (List DoctypeToken) :=
  match length, t with
  | _, [] => some []
  | 0, _ => none
  | length + 1, t => do
    let (token, rest) ← doctypeToken? t
    return token.toList ++ (← doctypeTokens? length rest)

/-! ## Declarations -/

/-- Whether a text may be a public identifier. -/
def isPublic (t : Text) : Bool :=
  t.all fun c => c.isAlphanum || (" \r\n-'()+,./:=?;!*#@$_%" : Text).contains c

/-- What follows an identifier of something outside the document. -/
def behindExternal? : List DoctypeToken → Option (List DoctypeToken)
  | .name word none :: .literal t :: tokens =>
    if word = "SYSTEM" then some tokens
    else if word = "PUBLIC" ∧ isPublic t then
      match tokens with
      | .literal _ :: tokens => some tokens
      | _ => none
    else none
  | _ => none

/-- A written text of an entity: references to characters are resolved, others are kept. `pending`
holds a reference that has begun, and `done` the characters in front, both backwards. -/
def entityText? (done : Text) (pending : Option Text) : Text → Option Text
  | [] => if pending = none then some done.reverse else none
  | c :: t =>
    match pending with
    | none =>
      if c = '%' then none
      else if c = '&' then entityText? done (some []) t
      else entityText? (c :: done) none t
    | some name =>
      if c ≠ ';' then entityText? done (some (c :: name)) t
      else if name.getLast? = some '#' then
        match reference? name.reverse with
        | some (.char c) => entityText? (c :: done) none t
        | _ => none
      else match name? name.reverse with
        | some (_, []) => entityText? (';' :: name ++ '&' :: done) none t
        | _ => none

def isSimple (name : Text) : Bool := !name.contains ':'

/-- Reads a declaration of an entity. One that parameters use is checked and forgotten. -/
def entity? (d : Doctype) (isParameter : Bool) : List DoctypeToken → Option Doctype
  | .name name none :: tokens =>
    if isSimple name then
      match tokens with
      | [.literal t] =>
        if d.isHeeded then do
          let t ← entityText? [] none t
          return if isParameter then d else d.addEntity name (some t)
        else some d
      | tokens =>
        match behindExternal? tokens with
        | some [] => some (if isParameter then d else d.addEntity name none)
        | some [.name word none, .name kind none] =>
          if !isParameter && word = "NDATA" && isSimple kind then some (d.addEntity name none)
          else none
        | _ => none
    else none
  | _ => none

def isNotation : List DoctypeToken → Bool
  | [.name name none, .name word none, .literal t] =>
    isSimple name && (word = "SYSTEM" || (word = "PUBLIC" && isPublic t))
  | [.name name none, .name word none, .literal t, .literal _] =>
    isSimple name && word = "PUBLIC" && isPublic t
  | _ => false

/-- What is read of the content of an element. -/
inductive ContentState where
  | start
  /-- At the start of the outermost group. -/
  | first
  /-- Behind a part of a mixed group; more than characters were allowed if `named`. -/
  | mixed (named : Bool)
  | mixedBar
  /-- In front of an item, inside groups that are joined by given signs so far. -/
  | item (groups : List (Option DoctypeToken))
  | behind (groups : List (Option DoctypeToken))
  | done
  deriving DecidableEq, Repr

/-- Reads a token of the content of an element. All items of a group are joined by one sign. -/
def ContentState.next? : ContentState → DoctypeToken → Option ContentState
  | .start, .name word none => if word = "EMPTY" ∨ word = "ANY" then some .done else none
  | .start, .openGroup => some .first
  | .first, .hash word => if word = "PCDATA" then some (.mixed false) else none
  | .first, .openGroup => some (.item [none, none])
  | .first, .name _ _ => some (.behind [none])
  | .mixed named, .closeGroup mark =>
    if mark = some '*' ∨ (mark = none ∧ ¬ named) then some .done else none
  | .mixed _, .bar => some .mixedBar
  | .mixedBar, .name _ none => some (.mixed true)
  | .item groups, .openGroup => some (.item (none :: groups))
  | .item groups, .name _ _ => some (.behind groups)
  | .behind [_], .closeGroup _ => some .done
  | .behind (_ :: groups), .closeGroup _ => some (.behind groups)
  | .behind (sign :: groups), token =>
    if (token = .bar ∨ token = .comma) ∧ sign.all (· = token) then
      some (.item (some token :: groups))
    else none
  | _, _ => none

def isElement : List DoctypeToken → Bool
  | .name _ none :: tokens => tokens.foldlM ContentState.next? .start = some .done
  | _ => false

/-- What is read of an attribute in a declaration. -/
inductive AttributeState where
  | ready
  | named (name : Text)
  /-- In front of the group of values. -/
  | listed (name : Text)
  /-- In the group of values, in front of one and behind it. -/
  | value (name : Text) (isNotation : Bool)
  | valued (name : Text) (isNotation : Bool)
  | typed (name : Text) (isWords : Bool)
  | fixed (name : Text) (isWords : Bool)
  deriving DecidableEq, Repr

/-- The types of attributes whose values are lists of words. -/
def wordTypes : List Text :=
  ["ID", "IDREF", "IDREFS", "ENTITY", "ENTITIES", "NMTOKEN", "NMTOKENS"]

/-- Adds a rule whose value is a literal. -/
def addValue? (d : Doctype) (element name : Text) (isWords : Bool) (t : Text) : Option Doctype :=
  if d.isHeeded then do
    let (value, _) ← d.expand? (Doctype.room 0) isWords (← value? t)
    return d.addRule ⟨element, name, isWords, some value⟩
  else some d

/-- Reads a token of a declaration of attributes. -/
def AttributeState.next? (element : Text) :
    Doctype × AttributeState → DoctypeToken → Option (Doctype × AttributeState)
  | (d, .ready), .name name none => some (d, .named name)
  | (d, .named name), .name word none =>
    if word = "CDATA" then some (d, .typed name false)
    else if wordTypes.contains word then some (d, .typed name true)
    else if word = "NOTATION" then some (d, .listed name)
    else none
  | (d, .named name), .openGroup => some (d, .value name false)
  | (d, .listed name), .openGroup => some (d, .value name true)
  | (d, .value name isNotation), .name t none =>
    if isNotation && !isSimple t then none else some (d, .valued name isNotation)
  | (d, .value name false), .word _ => some (d, .valued name false)
  | (d, .valued name _), .closeGroup none => some (d, .typed name true)
  | (d, .valued name isNotation), .bar => some (d, .value name isNotation)
  | (d, .typed name isWords), .hash word =>
    if word = "IMPLIED" ∨ word = "REQUIRED" then
      some (d.addRule ⟨element, name, isWords, none⟩, .ready)
    else if word = "FIXED" then some (d, .fixed name isWords)
    else none
  | (d, .typed name isWords), .literal t => (addValue? d element name isWords t).map (·, .ready)
  | (d, .fixed name isWords), .literal t => (addValue? d element name isWords t).map (·, .ready)
  | _, _ => none

def attributeRules? (d : Doctype) : List DoctypeToken → Option Doctype
  | .name element none :: tokens =>
    match tokens.foldlM (AttributeState.next? element) (d, .ready) with
    | some (d, .ready) => some d
    | _ => none
  | _ => none

/-- Reads a declaration by its first word and the tokens behind it. -/
def declaration? (d : Doctype) (word : Text) (tokens : List DoctypeToken) : Option Doctype :=
  if word = "ENTITY" then
    match tokens with
    | .percent :: tokens => entity? d true tokens
    | tokens => entity? d false tokens
  else if word = "ATTLIST" then attributeRules? d tokens
  else if word = "ELEMENT" then if isElement tokens then some d else none
  else if word = "NOTATION" then if isNotation tokens then some d else none
  else none

/-- Reads declarations up to the bracket behind them, and gives what follows. A declaration that has
begun is held by its first word and its tokens, backwards. -/
def declarations? (d : Doctype) (begun : Option (Text × List DoctypeToken)) :
    List DoctypeToken → Option (Doctype × List DoctypeToken)
  | [] => none
  | token :: tokens =>
    match begun, token with
    | none, .closeSubset => some (d, tokens)
    | none, .aside => declarations? d none tokens
    | none, .elsewhere => declarations? d.addElsewhere none tokens
    | none, .start word => declarations? d (some (word, [])) tokens
    | none, _ => none
    | some (word, read), .close => do declarations? (← declaration? d word read.reverse) none tokens
    | some (word, read), token => declarations? d (some (word, token :: read)) tokens

/-- Reads the tokens of a document type declaration. -/
def doctypeOf? (standalone : Bool) : List DoctypeToken → Option Doctype
  | .name _ none :: tokens =>
    let (d, tokens) : Doctype × List DoctypeToken :=
      match behindExternal? tokens with
      | some tokens => (⟨standalone, [], [], true, true⟩, tokens)
      | none => (⟨standalone, [], [], false, true⟩, tokens)
    match tokens with
    | [] => some d
    | .openSubset :: tokens =>
      match declarations? d none tokens with
      | some (d, []) => some d
      | _ => none
    | _ => none
  | _ => none

/-- Reads a document type declaration by the text behind its first word. -/
def doctype? (standalone : Bool) (t : Text) : Option Doctype := do
  if t.head?.any isSpace then doctypeOf? standalone (← doctypeTokens? t.length t) else none

example : (doctype? false " a [<!ENTITY e 'x &#38; &f;'>]").map (·.entities) =
    some [(['e'], some "x & &f;".toList)] := by decide +kernel

example : doctype? false " a SYSTEM" = none := by decide +kernel
example : doctype? false " a [<!ELEMENT a (b,c|d)>]" = none := by decide +kernel

end CellGraph.Markup
