import InstanceIdentity.Url.Address
import InstanceIdentity.Url.Domain

/-!
# Reading URLs

An absolute URL is read from a text.  Controls and blanks around it and tabs and line breaks in it do
not count.  Special schemes always lead to an authority, whatever slashes follow them; other schemes
have one after two slashes only.
-/

namespace InstanceIdentity

/-- Why a text is no URL. -/
inductive UrlError where
  | emptyHost
  | invalidDomain
  | invalidPort
  | invalidIpv4
  | invalidIpv6
  | invalidHostCharacter
  | relative
  deriving DecidableEq

/-- The wording of a refusal. -/
def UrlError.message : UrlError → String
  | .emptyHost => "empty host"
  | .invalidDomain => "invalid international domain name"
  | .invalidPort => "invalid port number"
  | .invalidIpv4 => "invalid IPv4 address"
  | .invalidIpv6 => "invalid IPv6 address"
  | .invalidHostCharacter => "invalid domain character"
  | .relative => "relative URL without a base"

namespace Url

/-! ## Hosts -/

/-- The text between the brackets that enclose a host. -/
def bracketed? (cs : List Char) : Option (List Char) :=
  if 2 ≤ cs.length ∧ cs.getLast? = some ']' then some (cs.drop 1).dropLast else none

/-- A host in brackets. -/
def readBracketed (cs : List Char) : Except UrlError Host :=
  match (bracketed? cs).bind Host.readIpv6? with
  | some groups => .ok (.ipv6 groups)
  | none => .error .invalidIpv6

/-- The host of a special URL: an address or a domain. -/
def readHost (cs : List Char) : Except UrlError Host :=
  if cs.head? = some '[' then readBracketed cs
  else
    match Domain.toAscii? (decode cs) with
    | none => .error .invalidDomain
    | some name =>
      if name = "" then .error .emptyHost
      else if Host.endsInNumber name.toList then
        match Host.readIpv4? name.toList with
        | some address => .ok (.ipv4 address)
        | none => .error .invalidIpv4
      else .ok (.domain name)

/-- Characters that the host of no URL can hold. -/
def forbiddenInHost (c : Char) : Bool :=
  c = '\x00' || "\t\n\r #/:<>?@[\\]^|".toList.contains c

/-- The host of a URL that is not special: an address in brackets or free text. -/
def readFreeHost (cs : List Char) : Except UrlError Host :=
  if cs.head? = some '[' then readBracketed cs
  else if cs.any forbiddenInHost then .error .invalidHostCharacter
  else .ok (.domain (encode beyondText cs))

/-! ## Authorities -/

/-- A character that ends the authority. -/
def endsAuthority (special : Bool) (c : Char) : Bool :=
  c = '/' || c = '?' || c = '#' || (special && c = '\\')

/-- What stands before the last at-sign of an authority, and what follows it. -/
def splitUserinfo (authority : List Char) : Option (List Char) × List Char :=
  let after := (authority.reverse.takeWhile (· != '@')).reverse
  if after.length = authority.length then (none, authority)
  else (some (authority.take (authority.length - after.length - 1)), after)

/-- User name and password, divided at the first colon.  An empty password is none. -/
def readUserinfo (cs : List Char) : String × Option String :=
  let name := cs.takeWhile (· != ':')
  let password := cs.drop (name.length + 1)
  (encode inUserinfo name, if password.isEmpty then none else some (encode inUserinfo password))

/-- Characters up to the colon in front of the port; a colon in brackets is part of the host. -/
def takeHost (inBrackets : Bool) : List Char → List Char
  | [] => []
  | c :: rest =>
    if c = ':' ∧ !inBrackets then []
    else c :: takeHost (if c = '[' then true else if c = ']' then false else inBrackets) rest

/-- A port; none when it is empty or the default of the scheme. -/
def readPort (scheme : String) (cs : List Char) : Except UrlError (Option Nat) :=
  if cs.isEmpty then .ok none
  else
    match Host.digits? 10 cs with
    | some port =>
      if 65535 < port then .error .invalidPort
      else .ok (if some port = defaultPort? scheme then none else some port)
    | none => .error .invalidPort

/-- Reads the authority of a URL; `followed` says whether anything comes after it.  An at-sign
without anything around it is refused in front of more. -/
def readAuthority (scheme : String) (followed : Bool) (cs : List Char) :
    Except UrlError Authority := do
  let special := isSpecialScheme scheme
  let (userinfo, hostPort) := splitUserinfo cs
  if userinfo = some [] && hostPort.isEmpty && followed then throw .emptyHost
  let (username, password) := readUserinfo (userinfo.getD [])
  let hostText := takeHost false hostPort
  let portText := hostPort.drop hostText.length
  if special && hostText.isEmpty then throw .emptyHost
  let host ← if special then readHost hostText else readFreeHost hostText
  let host := if host = .domain "" then none else some host
  if host.isNone && !portText.isEmpty then throw .emptyHost
  let port ← readPort scheme (portText.drop 1)
  if host.isNone && (username ≠ "" || password.isSome) then throw .emptyHost
  return { username, password, host, port }

/-! ## Paths -/

/-- A segment that stands for its own directory. -/
def isSingleDot (segment : List Char) : Bool :=
  [".", "%2e"].contains (String.ofList (segment.map Char.toLower))

/-- A segment that stands for the directory above. -/
def isDoubleDot (segment : List Char) : Bool :=
  ["..", ".%2e", "%2e.", "%2e%2e"].contains (String.ofList (segment.map Char.toLower))

/-- A letter and a colon or bar, which name a drive. -/
def isDriveLetter : List Char → Bool
  | [letter, mark] => letter.isAlpha && (mark = ':' || mark = '|')
  | _ => false

/-- A letter and a colon. -/
def isNormalDriveLetter : List Char → Bool
  | [letter, ':'] => letter.isAlpha
  | _ => false

/-- Removes the last segment, unless it is the drive of a file. -/
def shorten (file : Bool) (segments : List (List Char)) : List (List Char) :=
  if file && (match segments with | [drive] => isNormalDriveLetter drive | _ => false) then segments
  else segments.dropLast

/-- Adds a segment to those before it.  Dots are resolved; in last position they leave an empty
segment, as a final slash does. -/
def addSegment (file last : Bool) (before : List (List Char)) (segment : List Char) :
    List (List Char) :=
  if isDoubleDot segment then
    let shorter := shorten file before
    if last then shorter ++ [[]] else shorter
  else if isSingleDot segment then
    if last then before ++ [[]] else before
  else if file && isDriveLetter segment then
    before ++ [segment.take 1 ++ [':']]
  else before ++ [segment.flatMap (encodeChar inPath)]

/-- Adds segments one after the other. -/
def addSegments (file : Bool) : List (List Char) → List (List Char) → List (List Char)
  | before, [] => before
  | before, segment :: rest => addSegments file (addSegment file rest.isEmpty before segment) rest

/-- The parts of a path between its slashes. -/
def splitPath (special : Bool) (cs : List Char) : List (List Char) :=
  (cs.map fun c => if special ∧ c = '\\' then '/' else c).splitOn '/'

/-- The text of a path of segments. -/
def joinPath (segments : List (List Char)) : String :=
  String.ofList (segments.flatMap fun segment => '/' :: segment)

/-- The path of a URL with segments, given without its first slash. -/
def readPath (scheme : String) (cs : List Char) : String :=
  let file := scheme = "file"
  let segments := addSegments file [] (splitPath (isSpecialScheme scheme) cs)
  if file then
    match segments.dropWhile (·.isEmpty) with
    | [] => "/"
    | segments => joinPath segments
  else joinPath segments

/-! ## Whole URLs -/

/-- Splits at the first character of a kind: what stands before it, and what follows it. -/
def cutAt (p : Char → Bool) (cs : List Char) : List Char × Option (List Char) :=
  let before := cs.takeWhile fun c => !p c
  if before.length = cs.length then (cs, none) else (before, some (cs.drop (before.length + 1)))

/-- A control or a space. -/
def isEdge (c : Char) : Bool := c.toNat ≤ 0x20

/-- The characters of a text that count. -/
def significant (s : String) : List Char :=
  let trimmed := ((s.toList.dropWhile isEdge).reverse.dropWhile isEdge).reverse
  trimmed.filter fun c => c != '\t' && c != '\n' && c != '\r'

/-- The scheme in front of a colon, in lower case, and what follows. -/
def splitScheme? (cs : List Char) : Option (String × List Char) :=
  let name := cs.takeWhile fun c => c.isAlphanum || c = '+' || c = '-' || c = '.'
  match name, cs.drop name.length with
  | first :: _, ':' :: rest =>
    if first.isAlpha then some (String.ofList (name.map Char.toLower), rest) else none
  | _, _ => none

/-- The end of an authority, and the path with its slash.  A backslash after a port begins a path
of its own, even where it is not taken for a slash. -/
def cutAuthority (special : Bool) (cs : List Char) : List Char × List Char :=
  let authority := cs.takeWhile fun c => !endsAuthority special c
  let rest := cs.drop authority.length
  let hostPort := (splitUserinfo authority).2
  let port := hostPort.drop (takeHost false hostPort).length
  let beyond := port.dropWhile (· != '\\')
  if beyond.isEmpty then (authority, rest)
  else (authority.take (authority.length - beyond.length), '/' :: beyond ++ rest)

/-- Authority and path after the two slashes; `more` says whether a query or fragment follows. -/
def readHierarchy (scheme : String) (more : Bool) (cs : List Char) : Except UrlError Url := do
  let special := isSpecialScheme scheme
  let (authorityText, rest) := cutAuthority special cs
  let authority ← readAuthority scheme (more || !rest.isEmpty) authorityText
  let path := if rest.isEmpty && !special then "" else readPath scheme (rest.drop 1)
  return { scheme, authority := some authority, path }

/-- The host of a file: none when it is empty or the local host. -/
def readFileHost (cs : List Char) : Except UrlError (Option Host) := do
  if cs.isEmpty then return none
  match ← readHost cs with
  | .domain "localhost" => return none
  | host => return some host

/-- A file URL after its scheme. -/
def readFile (cs : List Char) : Except UrlError Url := do
  let slash := fun c : Char => c = '/' || c = '\\'
  match cs with
  | a :: b :: rest =>
    if slash a && slash b then
      let hostText := rest.takeWhile fun c => !slash c
      if isDriveLetter hostText then
        return { scheme := "file", authority := some {}, path := readPath "file" rest }
      let host ← readFileHost hostText
      let pathText := (rest.drop hostText.length).drop 1
      let drive := (splitPath true pathText).any isDriveLetter
      return {
        scheme := "file"
        authority := some { host := if drive then none else host }
        path := readPath "file" pathText }
    else return { scheme := "file", authority := some {}, path := readPath "file" cs }
  | _ => return { scheme := "file", authority := some {}, path := readPath "file" cs }

/-- A URL after its scheme, up to its query and fragment. -/
def readAfterScheme (scheme : String) (more : Bool) (cs : List Char) : Except UrlError Url := do
  if scheme = "file" then readFile cs
  else if isSpecialScheme scheme then
    readHierarchy scheme more (cs.dropWhile fun c => c = '/' || c = '\\')
  else
    match cs with
    | '/' :: '/' :: rest => readHierarchy scheme more rest
    | '/' :: rest => return { scheme, authority := none, path := readPath scheme rest }
    | _ => return { scheme, authority := none, path := encode beyondText cs }

/-- Reads an absolute URL. -/
def ofText (s : String) : Except UrlError Url := do
  match splitScheme? (significant s) with
  | none => throw .relative
  | some (scheme, rest) =>
    let (rest, fragment) := cutAt (· = '#') rest
    let (rest, query) := cutAt (· = '?') rest
    let url ← readAfterScheme scheme (query.isSome || fragment.isSome) rest
    return { url with
      query := query.map (encode (inQuery (isSpecialScheme scheme)))
      fragment := fragment.map (encode inFragment) }

end Url

end InstanceIdentity
