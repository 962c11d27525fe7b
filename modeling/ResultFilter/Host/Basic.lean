import ResultFilter.Host.Address
import ResultFilter.Text.Utf8

/-!
# Hosts

The host of an address or of a match pattern: a domain name in ASCII, or an address. All spellings of
one host are read as the same value, and each value is written in one way.

## Main definitions

* `Host` — a host.
* `Host.ofText?` — reads a host of the web.
* `Host.render` — its one spelling.
* `opaqueHost?` — the host of an address with a scheme that gives its hosts no form.
* `reversedLabels` — the labels of a host from the outermost inwards.
-/

namespace ResultFilter

open ResultFilter.Text

/-- A host of the web. -/
inductive Host where
  /-- A name, in ASCII. -/
  | domain (name : Text)
  | ipv4 (address : Host.Ipv4)
  | ipv6 (address : Host.Ipv6)
deriving DecidableEq, Repr

namespace Host

/-- What stands in brackets, if the text ends with one. -/
def bracketed? (cs : Text) : Option Text :=
  if cs.getLast? == some ']' then some cs.dropLast else none

/-- Reads a host of the web: percent-encoded bytes stand for themselves, a name is put into ASCII, and
a name that ends in a number has to be an IPv4 address. -/
def ofText? (cs : Text) : Option Host :=
  match cs with
  | '[' :: rest => do
    let inner ← bracketed? rest
    let address ← Ipv6.ofText? inner
    return .ipv6 address
  | cs => do
    let decoded ← ofUtf8? (percentDecode cs)
    let name ← nameToAscii? decoded
    if name.isEmpty then none
    else if endsInNumber name then (Ipv4.ofName? name).map .ipv4
    else some (.domain name)

/-- A host in its one spelling. -/
def render : Host → Text
  | .domain name => name
  | .ipv4 address => Ipv4.render address
  | .ipv6 address => '[' :: Ipv6.render address ++ [']']

/-- The characters that a host of any scheme may not contain. -/
def isForbiddenAnywhere (c : Char) : Bool :=
  ['\x00', '\t', '\n', '\r', ' ', '#', '/', ':', '<', '>', '?', '@', '[', '\\', ']', '^', '|'].contains c

/-- The spelling of a host whose scheme gives it no form: controls and characters beyond ASCII become
percent-encoded. -/
def opaqueHost? (cs : Text) : Option Text :=
  match cs with
  | '[' :: rest => do
    let inner ← bracketed? rest
    let address ← Ipv6.ofText? inner
    return render (.ipv6 address)
  | cs =>
    if cs.any isForbiddenAnywhere then none
    else some (percentEncode (fun c => ' ' ≤ c && c ≤ '~') cs)

/-- The labels of a host from the outermost inwards, without empty ones: `a.b.com` has `com`, `b` and
`a`. -/
def reversedLabels (host : Text) : List Text :=
  (splitDots host).reverse.filter (!·.isEmpty)

@[simp] theorem reversedLabels_nil : reversedLabels [] = [] := rfl

end Host

end ResultFilter
