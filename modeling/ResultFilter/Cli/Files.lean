import ResultFilter.Cli.Help
import ResultFilter.Cli.Plan

/-!
# A tree of files

Files in directories below one working directory, held in memory, and what a command line does to them:
the exit status, the lines printed, the files afterwards, and why it failed if it did.

## Main definitions

* `FileTree` — the files.
* `FileTree.read`, `FileTree.write` — reads and writes.
* `Outcome` — what a command line does.
* `runArgs` — runs a command line on a tree of files.
-/

namespace ResultFilter.Cli

open ResultFilter.Text

/-- The files below a working directory, each with the names on the path to it. Nothing else is kept: an
absolute path leads to none of these files, not even one to the working directory. -/
structure FileTree where
  /-- The files with their texts. -/
  files : List (List Text × Text)

namespace FileTree

/-- The tree of files with given paths. -/
def ofList (files : List (Path × Text)) : FileTree :=
  ⟨files.map fun (path, content) => (path.parts, content)⟩

/-- The names that lead to a place. Two dots take back the name before them without a look at the tree, so they
lead on also behind a directory that is missing or a file; at the working directory they stay there. -/
def resolve (parts : List Text) : List Text :=
  (parts.foldl (fun (back : List Text) part =>
    if part == ['.', '.'] then back.drop 1 else part :: back) []).reverse

/-- The text of the file at a place. -/
def file? (t : FileTree) (place : List Text) : Option Text :=
  t.files.lookup place

/-- Whether there is a directory at a place: the working directory, or one that a file lies in. -/
def isDirectory (t : FileTree) (place : List Text) : Bool :=
  place.isEmpty || t.files.any fun (parts, _) => place.isPrefixOf parts && parts != place

/-- Why there is nothing to read. -/
def missingReason : Text := "No such file or directory".toList

/-- Why a directory cannot be read or written. -/
def directoryReason : Text := "Is a directory".toList

/-- Why a file cannot be a directory. -/
def fileReason : Text := "Not a directory".toList

/-- Reads a file. Nothing is found at an absolute path. -/
def read (t : FileTree) (path : Path) : Reading :=
  let place := resolve path.parts
  if path.head? == some '/' then .missing missingReason
  else if t.isDirectory place then .unreadable directoryReason
  else
    match t.file? place with
    | some content => if path.namesFile then .text content else .missing fileReason
    | none => .missing missingReason

/-- Whether a place or one above it is a file, so that nothing can lie below it. -/
def blocked (t : FileTree) (place : List Text) : Bool :=
  t.files.any fun (parts, _) => parts.isPrefixOf place

/-- Writes a file, and makes its directory if it is missing. Nothing can be written at an absolute path. -/
def write (t : FileTree) (path : Path) (content : Text) : Except Failure FileTree :=
  let place := resolve path.parts
  if path.head? == some '/' then .error (.cannotWrite path missingReason)
  else if t.blocked (resolve path.parent.parts) then .error (.cannotCreate path.parent fileReason)
  else if t.isDirectory place || !path.namesFile then .error (.cannotWrite path directoryReason)
  else .ok ⟨t.files.filter (·.1 != place) ++ [(place, content)]⟩

/-- The files with their paths. -/
def toList (t : FileTree) : List (Path × Text) :=
  t.files.map fun (parts, content) => (Text.join ['/'] parts, content)

end FileTree

/-- What a command line does. -/
structure Outcome where
  /-- The exit status: zero, one after a failure, or two if the command line cannot be read. -/
  status : Nat
  /-- The lines printed. -/
  lines : List Text
  /-- The files afterwards. -/
  files : FileTree
  /-- Why it failed. -/
  failure : Option Failure := none

/-- Carries out steps on a tree of files, up to the first that fails. -/
def runSteps (files : FileTree) : List Step → Outcome
  | [] => ⟨0, [], files, none⟩
  | .print line :: rest =>
    let outcome := runSteps files rest
    { outcome with lines := line :: outcome.lines }
  | .write path content :: rest =>
    match files.write path content with
    | .ok files => runSteps files rest
    | .error failure => ⟨1, [], files, some failure⟩

/-- Carries out a plan on a tree of files. -/
def Plan.run (plan : Plan) (files : FileTree) : Outcome :=
  let outcome := runSteps files plan.steps
  match outcome.failure, plan.failure with
  | none, some failure => { outcome with status := 1, failure := some failure }
  | _, _ => outcome

/-- Runs a command line on a tree of files. -/
def runArgs (files : FileTree) (args : List Text) : Outcome :=
  match Request.ofArgs args with
  | .unreadable => ⟨2, [], files, none⟩
  | .help command => ⟨0, (helpLines command).map String.toList, files, none⟩
  | .run suffixes command => (command.plan files.read suffixes).run files

end ResultFilter.Cli
