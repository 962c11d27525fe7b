import ResultFilter.Cli.Files

/-!
# The command line

Reads the files that a command names, carries its plan out on the disk, and reports failures.
-/

namespace ResultFilter.Cli

/-- Reads a file from the disk. -/
def readFile (path : Path) : IO Reading := do
  try
    return .text (← IO.FS.readFile (String.ofList path)).toList
  catch
    | .noFileOrDirectory _ _ reason => return .missing reason.toList
    | e => return .unreadable (toString e).toList

/-- Writes a file to the disk, and makes its directory if it is missing. -/
def writeFile (path : Path) (content : Text) : IO (Option Failure) := do
  let directory := path.parent
  try
    if !directory.isEmpty then IO.FS.createDirAll (String.ofList directory)
  catch e => return some (.cannotCreate directory (toString e).toList)
  try
    IO.FS.writeFile (String.ofList path) (String.ofList content)
    return none
  catch e => return some (.cannotWrite path (toString e).toList)

/-- Carries out steps on the disk, up to the first that fails. -/
def performSteps : List Step → IO (Option Failure)
  | [] => return none
  | .print line :: rest => do
    IO.println (String.ofList line)
    performSteps rest
  | .write path content :: rest => do
    match ← writeFile path content with
    | none => performSteps rest
    | failure => return failure

/-- Carries out a plan on the disk; gives the exit status. -/
def Plan.perform (plan : Plan) : IO UInt32 := do
  match (← performSteps plan.steps) <|> plan.failure with
  | none => return 0
  | some failure =>
    IO.eprintln ("Error: " ++ String.ofList failure.message)
    return 1

/-- Runs a command line. -/
def perform (args : List Text) : IO UInt32 := do
  match Request.ofArgs args with
  | .unreadable =>
    generalHelp.forM IO.eprintln
    return 2
  | .help command =>
    (helpLines command).forM IO.println
    return 0
  | .run suffixes command =>
    let paths := suffixes.toList ++ command.inputs
    let texts ← paths.mapM fun path => return (path, ← readFile path)
    let read (path : Path) := (texts.lookup path).getD (.missing [])
    (command.plan read suffixes).perform

end ResultFilter.Cli

/-- The command line of the program. -/
def main (args : List String) : IO UInt32 :=
  ResultFilter.Cli.perform (args.map String.toList)
