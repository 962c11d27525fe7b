import ResultFilter.Cli.Command
import ResultFilter.Cli.Path
import ResultFilter.Engine
import ResultFilter.Ruleset.Stored

/-!
# What commands do

A command reads some files and then prints lines and writes files. What it does is a plan that depends on
what it has read; carrying the plan out is left to those who have a file system.

## Main definitions

* `Reading` — what became of the attempt to read a file.
* `Failure` — why a command fails.
* `Step`, `Plan` — what a command does, step by step.
* `Command.plan` — the plan of a command.
-/

namespace ResultFilter.Cli

open ResultFilter.Text

/-- What became of the attempt to read a file. -/
inductive Reading where
  /-- There is no such file. -/
  | missing (reason : Text)
  /-- There is something that cannot be read. -/
  | unreadable (reason : Text)
  /-- The text of the file. -/
  | text (content : Text)

/-- Whether there is something to be read. -/
def Reading.exists : Reading → Bool
  | .missing _ => false
  | _ => true

/-- Why a command fails. -/
inductive Failure where
  | cannotRead (path : Path) (reason : Text)
  | cannotCreate (path : Path) (reason : Text)
  | cannotWrite (path : Path) (reason : Text)
  /-- A file does not hold a stored ruleset, although it looks like one. -/
  | notStored (path : Path)
  /-- A text is no list of public suffixes. -/
  | invalidSuffixes
  /-- The rules to add would not turn the decision around. -/
  | changesNothing (rules url : Text)
  /-- Nobody says where the changed ruleset is to be written. -/
  | noTarget
deriving DecidableEq, Repr

/-- A failure in words. -/
def Failure.message : Failure → Text
  | .cannotRead path reason => "Failed to read '".toList ++ path ++ "': ".toList ++ reason
  | .cannotCreate path reason => "Failed to create '".toList ++ path ++ "': ".toList ++ reason
  | .cannotWrite path reason => "Failed to write '".toList ++ path ++ "': ".toList ++ reason
  | .notStored path => '\'' :: path ++ "': not a stored ruleset".toList
  | .invalidSuffixes => "Invalid public suffix list: no rule, or a malformed one".toList
  | .changesNothing rules url =>
    '\'' :: rules ++ "' does not change the decision for ".toList ++ url
  | .noTarget => "--apply needs --user or --output".toList

/-- A step of a command. -/
inductive Step where
  /-- A line is printed. -/
  | print (line : Text)
  /-- A file is written, and its directory made if it is missing. -/
  | write (path : Path) (content : Text)

/-- What a command does: steps, one after another, and maybe a failure after them. -/
structure Plan where
  /-- The steps. -/
  steps : List Step
  /-- The failure after the steps. -/
  failure : Option Failure := none

namespace Plan

/-- A plan that fails at once. -/
def fail (failure : Failure) : Plan := ⟨[], some failure⟩

/-- A plan of steps that does not fail. -/
def ofSteps (steps : List Step) : Plan := ⟨steps, none⟩

end Plan

section

variable (read : Path → Reading)

/-- The text of a file. -/
def readText (path : Path) : Except Failure Text :=
  match read path with
  | .text content => .ok content
  | .missing reason => .error (.cannotRead path reason)
  | .unreadable reason => .error (.cannotRead path reason)

/-- Whether a file looks as if it held a stored ruleset rather than rules: by its name, or since it
begins with a brace. -/
def looksStored (path : Path) (content : Text) : Bool :=
  path.hasExtension "json".toList || (trimStart content).head? == some '\x7b'

/-- The ruleset in a file, as rules or stored. -/
def loadRuleset (path : Path) : Except Failure Ruleset := do
  let content ← readText read path
  if looksStored path content then
    match Ruleset.load? content with
    | some r => return r
    | none => throw (.notStored path)
  else return Ruleset.ofText content

/-- The list of public suffixes in a file. -/
def loadSuffixes (path : Option Path) : Except Failure (Option SuffixList) :=
  match path with
  | none => return none
  | some path => do
    let content ← readText read path
    match SuffixList.ofText? content with
    | some list => return some list
    | none => throw .invalidSuffixes

/-- The rulesets that a command looks at. A ruleset of the user that is missing is empty. -/
def loadEngine (suffixes : Option SuffixList) (files : RulesetFiles) : Except Failure Engine := do
  let user ← match files.user with
    | some path => if (read path).exists then loadRuleset read path else pure Ruleset.empty
    | none => pure Ruleset.empty
  let subscriptions ← files.subscriptions.mapM (loadRuleset read)
  return .ofRulesets user subscriptions suffixes

end

/-- A number of bytes in units of 1024 with one decimal. -/
def kilobytes (n : Nat) : Text :=
  let tenths := Binary64.roundDiv (n * 10) 1024
  decimalDigits (tenths / 10) ++ '.' :: decimalDigits (tenths % 10)

/-- The steps of compiling a text. -/
def compileSteps (input : Path) (output : Option Path) (text : Text) : List Step :=
  let r := Ruleset.ofText text
  let stored := r.store
  match output with
  | none => [.print stored]
  | some output =>
    let bytes := (utf8 stored).length
    [.write output stored,
      .print ("Compiled '".toList ++ input ++ "' to '".toList ++ output ++ "'".toList),
      .print ("  Lines:    ".toList ++ decimalDigits r.lineCount),
      .print ("  Rules:    ".toList ++ decimalDigits r.ruleCount),
      .print ("  Size:     ".toList ++ decimalDigits bytes ++ " bytes (".toList ++ kilobytes bytes
        ++ " KB)".toList)]

/-- The lines that say what a ruleset holds. -/
def infoLines (input : Path) (r : Ruleset) : List Text :=
  ["Ruleset: ".toList ++ input]
    ++ (match r.name? with
      | some name => ["  Name:        ".toList ++ name]
      | none => [])
    ++ ["  Lines:       ".toList ++ decimalDigits r.lineCount ++ " (".toList
        ++ decimalDigits r.lines.length ++ " live)".toList,
      "  Rules:       ".toList ++ decimalDigits r.ruleCount,
      "  Patterns:    ".toList ++ decimalDigits r.index.patterns.size]
    ++ if r.metadata.isEmpty then []
      else [[], "Metadata:".toList] ++ r.metadata.map fun (key, value) =>
        "  ".toList ++ key ++ ": ".toList ++ value.render

/-- The line that reports a rule that fires. -/
def matchLine (label : Text) (r : Ruleset) (m : RuleMatch) : Text :=
  "  ".toList ++ label ++ ':' :: decimalDigits m.line ++ "  ".toList ++ (r.get? m.line).getD []
    ++ "  (".toList ++ m.decision.render ++ ")".toList

/-- How a ruleset that is followed is called: by its name, or by its number. -/
def subscriptionLabel (i : Nat) (r : Ruleset) : Text :=
  r.name?.getD ("sub".toList ++ decimalDigits i)

/-- The lines that report the rules that fire and the decision. -/
def queryLines (e : Engine) (props : Props) : List Text :=
  (e.user.query props).map (matchLine "user".toList e.user)
    ++ e.subscriptions.zipIdx.flatMap (fun (r, i) =>
      (r.query props).map (matchLine (subscriptionLabel i r) r))
    ++ [props.url ++ ": ".toList
      ++ match e.decide props with
        | some d => d.render
        | none => "none".toList]

/-- The patch of an engine with other rules to add, if some are given. -/
def proposePatch (e : Engine) (props : Props) (wholeSite : Bool) (rules : Option Text) :
    Except Failure (Patch × Engine) :=
  let (patch, e) := e.createPatch props wholeSite
  match rules with
  | none => .ok (patch, e)
  | some rules =>
    match e.modifyPatch rules with
    | (.accepted patch, e) => .ok (patch, e)
    | _ => .error (.changesNothing rules props.url)

/-- What is done with a patch that has been proposed: it is shown, and applied if asked for. -/
def patchPlan (patch : Patch) (e : Engine) (apply : Bool) (target : Option Path) : Plan :=
  let shown := Step.print patch.toJson.renderPretty
  if !apply then .ofSteps [shown]
  else
    match target, e.applyPatch with
    | some target, some e =>
      .ofSteps [shown, .write target e.user.toText,
        .print ("Wrote '".toList ++ target ++ "'".toList)]
    | _, _ => ⟨[shown], some .noTarget⟩

/-- The plan of a command, given what its files hold. -/
def Command.plan? (read : Path → Reading) (suffixes : Option SuffixList) :
    Command → Except Failure Plan
  | .compile input output => do
    let text ← readText read input
    return .ofSteps (compileSteps input output text)
  | .info input => do
    let r ← loadRuleset read input
    return .ofSteps ((infoLines input r).map .print)
  | .query files props => do
    let e ← loadEngine read suffixes files
    return .ofSteps ((queryLines e props).map .print)
  | .patch files props wholeSite rules apply output => do
    let e ← loadEngine read suffixes files
    let (proposed, e) ← proposePatch e props wholeSite rules
    return patchPlan proposed e apply (output <|> files.user)

/-- The plan of a command with a list of public suffixes, given what its files hold. -/
def Command.plan (read : Path → Reading) (suffixes : Option Path) (command : Command) : Plan :=
  match (loadSuffixes read suffixes).bind fun list => command.plan? read list with
  | .ok plan => plan
  | .error failure => .fail failure

/-- The files that a command reads. -/
def Command.inputs : Command → List Path
  | .compile input _ => [input]
  | .info input => [input]
  | .query files _ => files.user.toList ++ files.subscriptions
  | .patch files .. => files.user.toList ++ files.subscriptions

end ResultFilter.Cli
