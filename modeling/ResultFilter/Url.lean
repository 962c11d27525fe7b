import ResultFilter.Host.Basic

/-!
# Addresses of the web

The parts of a result's address that rules look at. An address is read as a browser reads it: blanks
around it and line ends within it do not count, dots in its path are resolved, and what cannot stand
as it is becomes percent-encoded.

## Main definitions

* `Url` — the scheme, the host, and the path with the query.
* `Url.ofText?` — reads an address; nothing if it has no host.
* `isWebScheme` — the schemes that match patterns serve.
-/

namespace ResultFilter

open ResultFilter.Text

/-- Whether a scheme is one of the web. -/
def isWebScheme (scheme : Text) : Bool :=
  scheme == "http".toList || scheme == "https".toList

/-- The parts of an address that patterns are tested on. -/
structure Url where
  /-- The scheme, in lower case. -/
  scheme : Text
  /-- The host, in its one spelling. -/
  host : Text
  /-- The path, and a question mark with the query unless that is empty. -/
  pathAndQuery : Text
deriving DecidableEq, Repr

namespace Url

/-- Whether patterns can match the address. -/
def isWeb (url : Url) : Bool :=
  isWebScheme url.scheme

/-- How the part after a scheme is read. -/
inductive SchemeKind where
  /-- A scheme of the web, whose hosts have a form. -/
  | special
  /-- The scheme of local files. -/
  | file
  /-- Any other scheme. -/
  | other
deriving DecidableEq, Repr

/-- The kind of a scheme. -/
def SchemeKind.of (scheme : Text) : SchemeKind :=
  if scheme == "file".toList then .file
  else if ["http", "https", "ws", "wss", "ftp"].any (·.toList == scheme) then .special
  else .other

/-- Whether a backslash counts as a slash. -/
def SchemeKind.foldsBackslash (kind : SchemeKind) : Bool :=
  kind != .other

/-- Whether a character parts the segments of a path. -/
def SchemeKind.isSlash (kind : SchemeKind) (c : Char) : Bool :=
  c == '/' || (c == '\\' && kind.foldsBackslash)

/-- Whether a character within an address is passed over. -/
def isIgnored (c : Char) : Bool :=
  ['\t', '\n', '\r'].contains c

/-- An address without the blanks and controls around it and the tabs and line ends within it. -/
def clean (cs : Text) : Text :=
  let trimmed := (cs.dropWhile (· ≤ ' ')).reverse.dropWhile (· ≤ ' ')
  trimmed.reverse.filter (!isIgnored ·)

/-- Whether a character may stand in a scheme, after the first. -/
def isSchemeChar (c : Char) : Bool :=
  c.isAlphanum || c == '+' || c == '-' || c == '.'

/-- The scheme of an address in lower case, and what follows its colon. -/
def scheme? (cs : Text) : Option (Text × Text) :=
  match cs with
  | [] => none
  | c :: _ =>
    if c.isAlpha then
      match cs.dropWhile isSchemeChar with
      | ':' :: rest => some (lowerAscii (cs.takeWhile isSchemeChar), rest)
      | _ => none
    else none

/-- What the last `@` of an authority leaves: the host with its port, and what follows. -/
def dropUserInfo (kind : SchemeKind) (cs : Text) : Text :=
  let authority := cs.takeWhile fun c => !(kind.isSlash c || c == '?' || c == '#')
  (authority.reverse.takeWhile (· != '@')).reverse ++ cs.drop authority.length

/-- The host of an authority and what follows it; a colon ends the host except in brackets. -/
def takeHost (kind : SchemeKind) (inBrackets : Bool) : Text → Text × Text
  | [] => ([], [])
  | c :: rest =>
    if (c == ':' && !inBrackets) || kind.isSlash c || c == '?' || c == '#' then ([], c :: rest)
    else
      let (host, after) := takeHost kind
        (if c == '[' then true else if c == ']' then false else inBrackets) rest
      (c :: host, after)

/-- What follows the port, if the port is a number of sixteen bits. -/
def dropPort? (cs : Text) : Option Text :=
  match cs with
  | ':' :: rest =>
    let digits := rest.takeWhile Char.isDigit
    let after := rest.drop digits.length
    let ends := match after with
      | [] => true
      | c :: _ => ['/', '\\', '?', '#'].contains c
    if ends && ofDigits 10 (digits.filterMap decimalValue?) ≤ 65535 then some after else none
  | cs => some cs

/-- Whether a character can be seen and belongs to ASCII. -/
def isPlain (c : Char) : Bool :=
  ' ' < c && c ≤ '~'

/-- Whether a character stands as itself in a path. -/
def isPathChar (c : Char) : Bool :=
  isPlain c && !(['"', '#', '<', '>', '?', '\x60', '\x7b', '\x7d'].contains c)

/-- Whether a character stands as itself in a query. -/
def isQueryChar (kind : SchemeKind) (c : Char) : Bool :=
  isPlain c && !(['"', '#', '<', '>'].contains c) && !(c == '\'' && kind != .other)

/-- Whether a segment stands for its own place. -/
def isSingleDot (segment : Text) : Bool :=
  lowerAscii segment == ".".toList || lowerAscii segment == "%2e".toList

/-- Whether a segment stands for the place above it. -/
def isDoubleDot (segment : Text) : Bool :=
  ["..", "%2e.", ".%2e", "%2e%2e"].any (·.toList == lowerAscii segment)

/-- Whether a segment names a drive. -/
def isDrive (segment : Text) : Bool :=
  match segment with
  | [c, d] => c.isAlpha && (d == ':' || d == '|')
  | _ => false

/-- A path, as its segments in reverse: the last segment comes first. -/
abbrev ReversedPath := List Text

/-- The segments above the last one; a drive is never left. -/
def parent (path : ReversedPath) : ReversedPath :=
  match path with
  | [] => []
  | segment :: above => if isDrive segment then path else above

/-- Adds a segment to a path; `isLast` tells whether no slash follows it. -/
def addSegment (path : ReversedPath) (segment : Text) (isLast : Bool) : ReversedPath :=
  if isDoubleDot segment then
    if isLast then [] :: parent path else parent path
  else if isSingleDot segment then
    if isLast then [] :: path else path
  else segment :: path

/-- The path that segments lead to, with dots resolved. -/
def resolve (path : ReversedPath) : List Text → ReversedPath
  | [] => path
  | [segment] => addSegment path segment true
  | segment :: rest => resolve (addSegment path segment false) rest

/-- A path in writing: a slash before each segment. -/
def renderPath (path : ReversedPath) : Text :=
  path.reverse.flatMap ('/' :: ·)

/-- The segments of a path that begins after its first slash. -/
def segments (kind : SchemeKind) (cs : Text) : List Text :=
  splitOn '/' (cs.map fun c => if kind.isSlash c then '/' else c)

/-- The path of an address, written out. Nothing if a drive takes the place of the host. -/
def path? (kind : SchemeKind) (cs : Text) : Option Text :=
  let body := match cs with
    | [] => none
    | c :: rest => some (if kind.isSlash c then rest else cs)
  match body with
  | none => some (if kind == .other then [] else ['/'])
  | some body =>
    let path := resolve [] ((segments kind body).map (percentEncode isPathChar))
    if kind == .file then
      if path.getLast?.any isDrive then none
      else some ('/' :: (renderPath path).dropWhile (· == '/'))
    else some (renderPath path)

/-- The path and the query of an address. -/
def pathAndQuery? (kind : SchemeKind) (cs : Text) : Option Text := do
  let cs := cs.takeWhile (· != '#')
  let path ← path? kind (cs.takeWhile (· != '?'))
  match cs.dropWhile (· != '?') with
  | _ :: query =>
    let written := percentEncode (isQueryChar kind) query
    return if written.isEmpty then path else path ++ '?' :: written
  | [] => return path

/-- Reads what follows the slashes of an address. -/
def ofAuthority? (scheme : Text) (kind : SchemeKind) (cs : Text) : Option Url := do
  let (hostText, rest) := takeHost kind false (dropUserInfo kind cs)
  if hostText.isEmpty then none
  else
    let host ← if kind == .other then Host.opaqueHost? hostText
      else (Host.ofText? hostText).map Host.render
    let rest ← dropPort? rest
    let pathAndQuery ← pathAndQuery? kind rest
    return ⟨scheme, host, pathAndQuery⟩

/-- Reads what follows the slashes of the address of a file. Nothing for a file of this machine. -/
def ofFile? (scheme : Text) (cs : Text) : Option Url := do
  let hostText := cs.takeWhile fun c => !(SchemeKind.file.isSlash c || c == '?' || c == '#')
  if hostText.isEmpty || isDrive hostText then none
  else
    let host ← (Host.ofText? hostText).map Host.render
    if host == "localhost".toList then none
    else
      let pathAndQuery ← pathAndQuery? .file (cs.drop hostText.length)
      return ⟨scheme, host, pathAndQuery⟩

/-- Reads an address. Nothing if it is malformed or has no host. -/
def ofText? (cs : Text) : Option Url := do
  let (scheme, rest) ← scheme? (clean cs)
  match SchemeKind.of scheme, rest with
  | .special, rest => ofAuthority? scheme .special (rest.dropWhile SchemeKind.special.isSlash)
  | .file, a :: b :: rest =>
    if SchemeKind.file.isSlash a && SchemeKind.file.isSlash b then ofFile? scheme rest else none
  | .other, '/' :: '/' :: rest => ofAuthority? scheme .other rest
  | _, _ => none

end Url

end ResultFilter
