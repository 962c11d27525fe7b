import ResultFilter.Text.Basic

/-!
# Paths of files

What the parts of a path say: which directory a file lies in and which extension its name has.

## Main definitions

* `Path.parts` — the names on a path.
* `Path.parent` — the directory that a file lies in.
* `Path.hasExtension` — whether the name of a file ends in a dot and the extension.
-/

namespace ResultFilter.Cli

/-- The path of a file, with slashes between its parts. -/
abbrev Path := Text

namespace Path

/-- The names on a path: neither what is empty nor the dot for the directory itself is one. -/
def parts (path : Path) : List Text :=
  (Text.splitOn '/' path).filter fun part => !part.isEmpty && part != ['.']

/-- A text without the slashes at its end, unless it is nothing else. -/
def dropSlashes (cs : Text) : Text :=
  let rest := (cs.reverse.dropWhile (· == '/')).reverse
  if rest.isEmpty then cs.take 1 else rest

/-- The directory that a file lies in; empty for the working directory. -/
def parent (path : Path) : Path :=
  let before := ((dropSlashes path).reverse.dropWhile (· != '/')).reverse
  if before.isEmpty then [] else dropSlashes before

/-- Whether a path can be that of a file: its last part is a name. -/
def namesFile (path : Path) : Bool :=
  match (Text.splitOn '/' path).getLast? with
  | some part => !part.isEmpty && part != ['.'] && part != ['.', '.']
  | none => false

/-- Whether the name of a file ends in a dot and the extension, with something before the dot. -/
def hasExtension (path : Path) (extension : Text) : Bool :=
  match path.parts.getLast? with
  | some name =>
    let after := (name.reverse.takeWhile (· != '.')).reverse
    let before := name.take (name.length - after.length - 1)
    name != ['.', '.'] && after == extension && !before.isEmpty
  | none => false

end Path

end ResultFilter.Cli
