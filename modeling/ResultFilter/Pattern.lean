import ResultFilter.Glob
import ResultFilter.Url

/-!
# Match patterns

A match pattern names a set of addresses: `<all_urls>`, or a scheme, a host and a path, as in
`*://*.example.com/news/*`. The host is put into its one spelling when the pattern is read, so that it
can be compared with the host of an address.

## Main definitions

* `HostPattern`, `MatchPattern` — the patterns.
* `MatchPattern.ofText` — reads a pattern.
* `MatchPattern.render` — writes it.
* `schemeMatches`, `pathMatches` — the tests of the outer parts.
* `MatchPattern.isMatch` — whether a pattern covers an address.
-/

namespace ResultFilter

open ResultFilter.Text

/-- Why a pattern is refused. -/
inductive PatternError where
  /-- The text is no pattern. -/
  | invalidPattern (pattern : Text)
  /-- The pattern is not one for the web. -/
  | unsupportedScheme (scheme : Text)
deriving DecidableEq, Repr

/-- The text of an error. -/
def PatternError.message : PatternError → Text
  | .invalidPattern pattern => "Invalid match pattern: ".toList ++ pattern
  | .unsupportedScheme scheme => "Unsupported scheme: ".toList ++ scheme

/-- The host of a match pattern. -/
inductive HostPattern where
  /-- `*`, every host. -/
  | any
  /-- `*.` and a domain: the domain and all below it. -/
  | subdomains (domain : Text)
  /-- One host. -/
  | exact (host : Text)
deriving DecidableEq, Repr

namespace HostPattern

/-- A host in its one spelling; a star has no place in it. -/
def normalize? (host : Text) : Option Text :=
  if host.isEmpty || host.contains '*' then none else (Host.ofText? host).map Host.render

/-- Reads the host of a pattern. -/
def ofText? (cs : Text) : Option HostPattern :=
  match cs with
  | ['*'] => some .any
  | '*' :: '.' :: domain => (normalize? domain).map .subdomains
  | host => (normalize? host).map .exact

/-- The domain that the index files the pattern under. -/
def domain : HostPattern → Text
  | .any => []
  | .subdomains domain => domain
  | .exact host => host

/-- Whether the pattern covers what is below its domain. -/
def isWildcard : HostPattern → Bool
  | .exact _ => false
  | _ => true

/-- The host as it is written in a pattern. -/
def render : HostPattern → Text
  | .any => ['*']
  | .subdomains domain => '*' :: '.' :: domain
  | .exact host => host

/-- Whether the pattern covers a host: its labels are those of the domain, or begin with them from
the outermost inwards. -/
def covers (p : HostPattern) (host : Text) : Bool :=
  let labels := Host.reversedLabels p.domain
  if p.isWildcard then labels.isPrefixOf (Host.reversedLabels host)
  else labels == Host.reversedLabels host

end HostPattern

/-- A set of addresses. -/
inductive MatchPattern where
  /-- Every address of the web. -/
  | allUrls
  /-- A scheme in lower case or a star, a host, and a path that begins with a slash. -/
  | url (scheme : Text) (host : HostPattern) (path : Text)
deriving DecidableEq, Repr

/-- The pattern of every address. -/
def allUrlsText : Text := "<all_urls>".toList

/-- The scheme that stands for both schemes of the web. -/
def anyScheme : Text := ['*']

/-- The path that stands for every path. -/
def anyPath : Text := ['/', '*']

/-- Whether a text is a scheme, or the star in its place. -/
def isSchemePattern (cs : Text) : Bool :=
  cs == anyScheme ||
    match cs with
    | c :: rest => c.isAlpha && rest.all Url.isSchemeChar
    | [] => false

/-- Whether the scheme of a pattern covers a scheme; the star covers those of the web. -/
def schemeMatches (pattern scheme : Text) : Bool :=
  if pattern == anyScheme then isWebScheme scheme else pattern == scheme

/-- Whether the path of a pattern covers a path with its query, byte by byte. -/
def pathMatches (pattern pathAndQuery : Text) : Bool :=
  pattern == anyPath || Glob.isMatch 0x2A (utf8 pattern) (utf8 pathAndQuery)

namespace MatchPattern

/-- Reads a pattern. -/
def ofText (cs : Text) : Except PatternError MatchPattern :=
  if cs == allUrlsText then .ok .allUrls
  else
    match cutAt? "://".toList cs with
    | some (scheme, rest) =>
      let host := rest.takeWhile (· != '/')
      let path := rest.dropWhile (· != '/')
      if isSchemePattern scheme && !path.isEmpty then
        match HostPattern.ofText? host with
        | some host => .ok (.url (lowerAscii scheme) host path)
        | none => .error (.invalidPattern cs)
      else .error (.invalidPattern cs)
    | none => .error (.invalidPattern cs)

/-- Writes a pattern. -/
def render : MatchPattern → Text
  | .allUrls => allUrlsText
  | .url scheme host path => scheme ++ "://".toList ++ host.render ++ path

/-- Whether a pattern covers an address. -/
def isMatch (p : MatchPattern) (url : Url) : Bool :=
  url.isWeb &&
    match p with
    | .allUrls => true
    | .url scheme host path =>
      schemeMatches scheme url.scheme && pathMatches path url.pathAndQuery && host.covers url.host

end MatchPattern

end ResultFilter
