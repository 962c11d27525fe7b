import ResultFilter.Cli.Options
import ResultFilter.Props

/-!
# Commands

What the words of a command line ask for: a command with its options. The list of public suffixes and
the wish for more messages may be given before the command or after it.

## Main definitions

* `Command` — a command with its options.
* `Request` — what a command line asks for.
* `Request.ofArgs` — reads a command line.
-/

namespace ResultFilter.Cli

/-- The rulesets that a command looks at. -/
structure RulesetFiles where
  /-- The file of the user's ruleset. -/
  user : Option Text
  /-- The files of the rulesets followed. -/
  subscriptions : List Text

/-- A command with its options. -/
inductive Command where
  /-- Compiles a text of rules and writes or prints the stored form. -/
  | compile (input : Text) (output : Option Text)
  /-- Says what a ruleset holds. -/
  | info (input : Text)
  /-- Decides on a search result. -/
  | query (files : RulesetFiles) (props : Props)
  /-- Proposes a patch for a search result, and applies it if asked to. -/
  | patch (files : RulesetFiles) (props : Props) (wholeSite : Bool) (rulesToAdd : Option Text)
      (apply : Bool) (output : Option Text)

/-- The names of the commands. -/
inductive CommandName where
  | compile
  | info
  | query
  | patch
deriving DecidableEq, Repr

/-- What a command line asks for. -/
inductive Request where
  /-- It cannot be read. -/
  | unreadable
  /-- Help, on a command or on all of them. -/
  | help (command : Option CommandName)
  /-- A command, with the file of a list of public suffixes. -/
  | run (suffixes : Option Text) (command : Command)

namespace CommandName

/-- The command of a name. -/
def ofText? (name : Text) : Option CommandName :=
  if name == "compile".toList then some .compile
  else if name == "info".toList then some .info
  else if name == "query".toList then some .query
  else if name == "patch".toList then some .patch
  else none

/-- The options that stand before a command or after it. -/
def common : List OptionSpec :=
  [{ name := "psl", kind := .path }, { letter := some 'v', name := "verbose", kind := .none }]

/-- The options for the rulesets. -/
def rulesetOptions : List OptionSpec :=
  [{ letter := some 'u', name := "user", kind := .path },
    { letter := some 's', name := "subscription", kind := .path, repeats := true }]

/-- The options for the search result. -/
def entryOptions : List OptionSpec :=
  [{ name := "url", kind := .text }, { name := "title", kind := .text },
    { name := "prop", kind := .pair, repeats := true }]

/-- The options that a command knows. -/
def options : CommandName → List OptionSpec
  | .compile =>
    [{ letter := some 'i', name := "input", kind := .path },
      { letter := some 'o', name := "output", kind := .path }] ++ common
  | .info => [{ letter := some 'i', name := "input", kind := .path }] ++ common
  | .query => rulesetOptions ++ entryOptions ++ common
  | .patch =>
    rulesetOptions ++ entryOptions ++
      [{ name := "whole-site", kind := .none }, { name := "rules-to-add", kind := .text },
        { name := "apply", kind := .none },
        { letter := some 'o', name := "output", kind := .path }] ++ common

end CommandName

/-- The rulesets that options name. -/
def RulesetFiles.ofGiven (given : Given) : RulesetFiles :=
  ⟨given.value? "user", given.all "subscription"⟩

/-- The search result that options describe; the address has to be given. -/
def propsOf? (given : Given) : Option Props := do
  let url ← given.value? "url"
  let props : Props := Dict.insert Props.urlName url []
  let props := match given.value? "title" with
    | some title => Dict.insert Props.titleName title props
    | none => props
  return ((given.all "prop").filterMap pair?).foldl
    (fun props (name, value) => Dict.insert name value props) props

/-- The command with options that have been read, unless one of them is missing. -/
def Command.ofGiven? (name : CommandName) (given : Given) : Option Command := do
  match name with
  | .compile => return .compile (← given.value? "input") (given.value? "output")
  | .info => return .info (← given.value? "input")
  | .query => return .query (.ofGiven given) (← propsOf? given)
  | .patch =>
    return .patch (.ofGiven given) (← propsOf? given) (given.has "whole-site")
      (given.value? "rules-to-add") (given.has "apply") (given.value? "output")

namespace Request

/-- Reads the words after `help`. -/
def ofHelpArgs : List Text → Request
  | [] => .help none
  | [name] =>
    match CommandName.ofText? name with
    | some command => .help (some command)
    | none => if name == "help".toList then .help none else .unreadable
  | _ => .unreadable

/-- Reads the words after the name of a command; some options may have been given before it. -/
def ofCommandArgs (before : Given) (name : CommandName) (args : List Text) : Request :=
  match Scan.options name.options [] args with
  | .unreadable => .unreadable
  | .help => .help (some name)
  | .done _ (_ :: _) => .unreadable
  | .done given [] =>
    match Command.ofGiven? name given with
    | some command =>
      .run (match given.value? "psl" with
        | some path => some path
        | none => before.value? "psl") command
    | none => .unreadable

/-- Reads a command line. -/
def ofArgs (args : List Text) : Request :=
  match Scan.options CommandName.common [] args with
  | .unreadable => .unreadable
  | .help => .help none
  | .done _ [] => .unreadable
  | .done before (name :: rest) =>
    match CommandName.ofText? name with
    | some command => ofCommandArgs before command rest
    | none => if name == "help".toList then ofHelpArgs rest else .unreadable

end Request

end ResultFilter.Cli
