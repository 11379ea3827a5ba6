import InstanceIdentity.Url.Percent

/-!
# URLs

A URL in parsed form: scheme, an authority for schemes that have one, path, query and fragment.  The
parts are kept as they are written, already encoded and normalised, so the text of a URL is their
concatenation.  The scheme of every special URL has an authority, and the port that is a scheme's
default is never kept.
-/

namespace InstanceIdentity

/-- Where a URL leads. -/
inductive Host where
  | domain (name : String)
  | ipv4 (address : Nat)
  /-- Eight groups of sixteen bits. -/
  | ipv6 (groups : List Nat)
  deriving DecidableEq

/-- The part of a URL between the two slashes and its path. -/
structure Authority where
  username : String := ""
  password : Option String := none
  /-- Absent when the host is empty. -/
  host : Option Host := none
  port : Option Nat := none
  deriving DecidableEq

/-- A URL in parsed form. -/
structure Url where
  scheme : String
  authority : Option Authority
  /-- Begins with a slash, or is free text when the URL has neither authority nor hierarchy. -/
  path : String
  query : Option String := none
  fragment : Option String := none
  deriving DecidableEq

namespace Host

/-- The four bytes of an address, separated by points. -/
def ipv4Text (address : Nat) : String :=
  ".".intercalate ([24, 16, 8, 0].map fun shift => toString (address / Nat.pow 2 shift % 256))

/-- A group in hexadecimal. -/
def groupText (group : Nat) : String := String.ofList (Nat.toDigits 16 group)

/-- The length of the run of zeros at the start of a list. -/
def zeroRun (groups : List Nat) : Nat := (groups.takeWhile (· = 0)).length

/-- The first of the longest runs of at least two zeros: where it starts, and its length. -/
def longestZeros (groups : List Nat) : Option (Nat × Nat) :=
  (List.range groups.length).foldl (fun best start =>
    let length := zeroRun (groups.drop start)
    if 2 ≤ length && (best.all fun found => decide (found.2 < length)) then some (start, length)
    else best) none

/-- Groups separated by colons, with the longest run of zeros left out. -/
def ipv6Text (groups : List Nat) : String :=
  let joined := fun part : List Nat => ":".intercalate (part.map groupText)
  match longestZeros groups with
  | none => joined groups
  | some (start, length) =>
    joined (groups.take start) ++ "::" ++ joined (groups.drop (start + length))

/-- The text of a host. -/
def text : Host → String
  | .domain name => name
  | .ipv4 address => ipv4Text address
  | .ipv6 groups => "[" ++ ipv6Text groups ++ "]"

end Host

/-- The text of an authority. -/
def Authority.text (a : Authority) : String :=
  let userinfo :=
    a.username ++ (a.password.map (":" ++ ·)).getD "" ++
      (if a.username = "" && a.password.isNone then "" else "@")
  userinfo ++ (a.host.map Host.text).getD "" ++ (a.port.map fun port => ":" ++ toString port).getD ""

namespace Url

/-- The port that a scheme uses when none is named. -/
def defaultPort? (scheme : String) : Option Nat :=
  match scheme with
  | "http" | "ws" => some 80
  | "https" | "wss" => some 443
  | "ftp" => some 21
  | _ => none

/-- Schemes whose URLs always have an authority and a hierarchical path. -/
def isSpecialScheme (scheme : String) : Bool :=
  ["http", "https", "ws", "wss", "ftp", "file"].contains scheme

/-- The scheme of the URL is special. -/
def isSpecial (url : Url) : Bool := isSpecialScheme url.scheme

/-- The host, if there is one. -/
def host? (url : Url) : Option Host := url.authority.bind (·.host)

/-- The port, if it is not the scheme's default. -/
def port? (url : Url) : Option Nat := url.authority.bind (·.port)

/-- The path is free text, to which nothing can be relative. -/
def isOpaque (url : Url) : Bool := url.authority.isNone && url.path.toList.head? != some '/'

/-- A path that would be taken for an authority is kept apart from the scheme by a point. -/
def pathText (url : Url) : String :=
  if url.authority.isNone && url.path.toList.take 2 == ['/', '/'] then "/." ++ url.path else url.path

/-- The text of a URL. -/
def text (url : Url) : String :=
  url.scheme ++ ":" ++ (url.authority.map fun a => "//" ++ a.text).getD "" ++ url.pathText ++
    (url.query.map ("?" ++ ·)).getD "" ++ (url.fragment.map ("#" ++ ·)).getD ""

end Url

end InstanceIdentity
