import CellGraph.Numeral.Integer

/-!
# Command lines

The words after the name of the program: options of the program, a command, and the options and
arguments of that command in any order. A long option takes its value after an equals sign or as
the next word, a short one in the same word or as the next; short options without values may share
a word. Behind a double hyphen every word is an argument.
-/

namespace CellGraph

/-- What an option does when it is named: it stands for a value, or the value follows it. -/
inductive OptionKind where
  | stands (value : Bool)
  | takes
  deriving DecidableEq, Repr

/-- An option as written, and the name under which its value is kept. -/
structure OptionForm where
  written : Text
  key : Text
  kind : OptionKind
  deriving DecidableEq, Repr

inductive OptionValue where
  | is (b : Bool)
  | given (t : Text)
  deriving DecidableEq, Repr

/-- What a command line says: the values of options, the last first, and the arguments. -/
structure Parsed where
  values : List (Text × OptionValue)
  arguments : List Text
  deriving DecidableEq, Repr

namespace Parsed

def given? (p : Parsed) (key : Text) : Option Text :=
  match p.values.lookup key with
  | some (.given t) => some t
  | _ => none

/-- Whether an option is on; it may be on unless said otherwise. -/
def isOn (p : Parsed) (key : Text) (default : Bool) : Bool :=
  match p.values.lookup key with
  | some (.is b) => b
  | _ => default

def add (p : Parsed) (key : Text) (v : OptionValue) : Parsed :=
  { p with values := (key, v) :: p.values }

end Parsed

namespace CommandLine

def find? (forms : List OptionForm) (written : Text) : Option OptionForm :=
  forms.find? (·.written = written)

/-- Reads short options that share a word, given their letters. The second result is the key of
an option that still waits for its value. -/
def short? (forms : List OptionForm) (p : Parsed) : Text → Option (Parsed × Option Text)
  | [] => some (p, none)
  | letter :: rest =>
    match find? forms ['-', letter] with
    | none => none
    | some f =>
      match f.kind with
      | .stands b => short? forms (p.add f.key (.is b)) rest
      | .takes => if rest = [] then some (p, some f.key) else some (p.add f.key (.given rest), none)

/-- Reads a word that starts with a hyphen. -/
def option? (forms : List OptionForm) (p : Parsed) (word : Text) :
    Option (Parsed × Option Text) :=
  if (Text.after? "--" word).isSome then
    let written := word.takeWhile (· ≠ '=')
    let attached := word.drop written.length
    match find? forms written with
    | none => none
    | some f =>
      match f.kind, attached with
      | .stands b, [] => some (p.add f.key (.is b), none)
      | .stands _, _ => none
      | .takes, [] => some (p, some f.key)
      | .takes, _ :: value => some (p.add f.key (.given value), none)
  else short? forms p (word.drop 1)

/-- Reads words. With `stops`, the first argument ends the options. `waiting` is the key of an
option whose value comes next. -/
def words? (forms : List OptionForm) (stops : Bool) (p : Parsed) (waiting : Option Text) :
    List Text → Option Parsed
  | [] => if waiting = none then some p else none
  | word :: words =>
    match waiting with
    | some key => words? forms stops (p.add key (.given word)) none words
    | none =>
      if word = "--" then some { p with arguments := p.arguments ++ words }
      else if word.head? = some '-' ∧ 1 < word.length then
        match option? forms p word with
        | some (p, waiting) => words? forms stops p waiting words
        | none => none
      else if stops then some { p with arguments := p.arguments ++ word :: words }
      else words? forms stops { p with arguments := p.arguments ++ [word] } none words

def read? (forms : List OptionForm) (stops : Bool) (words : List Text) : Option Parsed :=
  words? forms stops ⟨[], []⟩ none words

end CommandLine

inductive Command where
  | help
  | convert (workbook folder : Text)
  | diagram (workbook : Text) (page image : Option Text) (asLink : Bool)
  | push (workbook space : Text) (token : Option Text)
  | watch (workbook folder : Text) (notifies : Bool)
  | serve (host : Text) (port : Int)
  deriving DecidableEq, Repr

namespace Command

def helpForm : OptionForm := ⟨"--help", "help", .stands true⟩

def programForms : List OptionForm :=
  [helpForm, ⟨"--verbose", "verbose", .stands true⟩, ⟨"-v", "verbose", .stands true⟩]

/-- The options that say where files go. -/
def folderForms : List OptionForm := [⟨"--out-dir", "out-dir", .takes⟩, ⟨"-o", "out-dir", .takes⟩]

def forms (name : Text) : List OptionForm :=
  helpForm ::
    if name = "convert" then folderForms
    else if name = "diagram" then [⟨"--html", "html", .takes⟩, ⟨"--png", "png", .takes⟩,
      ⟨"--url", "url", .stands true⟩, ⟨"--no-url", "url", .stands false⟩]
    else if name = "push" then [⟨"--token", "token", .takes⟩]
    else if name = "watch" then folderForms ++ [⟨"--notify", "notify", .stands true⟩,
      ⟨"--no-notify", "notify", .stands false⟩]
    else if name = "api" then [⟨"--host", "host", .takes⟩, ⟨"--port", "port", .takes⟩]
    else []

/-- The command with a name, by its options and arguments. -/
def ofParsed? (name : Text) (p : Parsed) : Option Command :=
  let folder := (p.given? "out-dir").getD ['.']
  if p.isOn "help" false then some .help
  else match p.arguments with
    | [workbook] =>
      if name = "convert" then some (.convert workbook folder)
      else if name = "diagram" then
        some (.diagram workbook (p.given? "html") (p.given? "png") (p.isOn "url" false))
      else if name = "watch" then some (.watch workbook folder (p.isOn "notify" true))
      else none
    | [workbook, space] =>
      if name = "push" then some (.push workbook space (p.given? "token")) else none
    | [] =>
      if name = "api" then
        (Integer.read? ((p.given? "port").getD "8000")).map
          (.serve ((p.given? "host").getD "0.0.0.0"))
      else none
    | _ => none

def names : List Text := ["convert", "diagram", "push", "watch", "api"]

/-- Reads the words after the name of the program; none if they make no command. -/
def read? (words : List Text) : Option Command := do
  let p ← CommandLine.read? programForms true words
  if p.isOn "help" false then return .help
  else match p.arguments with
    | [] => none
    | name :: words =>
      if names.contains name then
        ofParsed? name (← CommandLine.read? (forms name) false words)
      else none

end Command
end CellGraph
