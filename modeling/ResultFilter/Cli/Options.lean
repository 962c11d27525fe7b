import ResultFilter.Text.Basic

/-!
# Options of a command line

A word that begins with two hyphens names an option, one with a single hyphen is a row of letters for
options. The value of an option is attached to it or is the next word. An option counts once, unless it
may be repeated.

## Main definitions

* `OptionSpec` — an option that a command knows.
* `Given` — the options given, with their values.
* `Scan.options` — reads options up to a word that is none.
-/

namespace ResultFilter.Cli

/-- What the value of an option has to be. -/
inductive ValueKind where
  /-- Nothing: the option has no value. -/
  | none
  /-- The path of a file, which is not empty. -/
  | path
  /-- Any text. -/
  | text
  /-- A name and a value with an equals sign between them. -/
  | pair
deriving DecidableEq, Repr

/-- An option that a command knows. -/
structure OptionSpec where
  /-- Its letter. -/
  letter : Option Char := Option.none
  /-- Its name. -/
  name : String
  /-- What its value has to be. -/
  kind : ValueKind
  /-- Whether it may be given more than once. -/
  repeats : Bool := false

/-- The options given, with their values, in order. -/
abbrev Given := List (String × Text)

namespace Given

/-- The values of an option. -/
def all (given : Given) (name : String) : List Text :=
  (given.filter (·.1 == name)).map (·.2)

/-- The value of an option that is given at most once. -/
def value? (given : Given) (name : String) : Option Text :=
  (given.all name).head?

/-- Whether an option is given. -/
def has (given : Given) (name : String) : Bool :=
  !(given.all name).isEmpty

end Given

/-- A name and a value with an equals sign between them; the name is not empty. -/
def pair? (value : Text) : Option (Text × Text) :=
  match Text.cutAt? ['='] value with
  | some (name, value) => if name.isEmpty then none else some (name, value)
  | none => none

/-- Whether a text may be the value of an option. -/
def ValueKind.admits (kind : ValueKind) (value : Text) : Bool :=
  match kind with
  | .none => false
  | .path => !value.isEmpty
  | .text => true
  | .pair => (pair? value).isSome

/-- How the reading of options ends. -/
inductive Scan where
  /-- The words cannot be read. -/
  | unreadable
  /-- Help is asked for. -/
  | help
  /-- The options are read; what is left begins with a word that is no option. -/
  | done (given : Given) (rest : List Text)

namespace Scan

/-- What a word asks for. -/
inductive Word where
  | unreadable
  /-- Options with their values, and then help. -/
  | help (options : Given)
  /-- Options with their values. -/
  | given (options : Given)
  /-- Options with their values, and one whose value is the next word. -/
  | awaits (options : Given) (option : OptionSpec)
  /-- The word is no option. -/
  | other

/-- An option with a value that is attached to it, or with the next word for a value. -/
def withValue (before : Given) (option : OptionSpec) (attached : Option Text) : Word :=
  match option.kind, attached with
  | .none, none => .given (before ++ [(option.name, [])])
  | .none, some _ => .unreadable
  | _, some value => .given (before ++ [(option.name, value)])
  | _, none => .awaits before option

/-- A row of letters for options. What follows the letter of an option with a value is the value. -/
def letters (specs : List OptionSpec) (before : Given) : Text → Word
  | [] => .given before
  | c :: rest =>
    match specs.find? (·.letter == some c) with
    | some option =>
      if option.kind = .none then letters specs (before ++ [(option.name, [])]) rest
      else
        withValue before option <|
          match rest with
          | [] => none
          | '=' :: value => some value
          | value => some value
    | none => if c = 'h' then .help before else .unreadable

/-- What a word asks for. -/
def word (specs : List OptionSpec) (arg : Text) : Word :=
  match arg with
  | '-' :: '-' :: rest =>
    let name := rest.takeWhile (· != '=')
    let attached := (rest.dropWhile (· != '=')).tail?
    match specs.find? (·.name.toList == name) with
    | some option => withValue [] option attached
    | none => if name == "help".toList && attached.isNone then .help [] else .unreadable
  | ['-'] => .other
  | '-' :: cs => letters specs [] cs
  | _ => .other

/-- Adds options to those given: each value is admitted, and none is given again that may not be. -/
def add? (specs : List OptionSpec) (given : Given) : Given → Option Given
  | [] => some given
  | (name, value) :: rest =>
    match specs.find? (·.name == name) with
    | none => none
    | some option =>
      if (option.kind ≠ .none && !option.kind.admits value) || (!option.repeats && given.has name) then
        none
      else add? specs (given ++ [(name, value)]) rest

/-- Reads options up to a word that is none. Two hyphens by themselves end the options. -/
def options (specs : List OptionSpec) (given : Given) : List Text → Scan
  | [] => .done given []
  | ['-', '-'] :: rest => if rest.isEmpty then .done given [] else .unreadable
  | arg :: rest =>
    match word specs arg with
    | .unreadable => .unreadable
    | .help more => if (add? specs given more).isSome then .help else .unreadable
    | .other => .done given (arg :: rest)
    | .given more =>
      match add? specs given more with
      | some given => options specs given rest
      | none => .unreadable
    | .awaits more option =>
      match rest with
      | [] => .unreadable
      | value :: rest =>
        match word specs value with
        | .other =>
          match add? specs given (more ++ [(option.name, value)]) with
          | some given => options specs given rest
          | none => .unreadable
        | _ => .unreadable

end Scan

end ResultFilter.Cli
