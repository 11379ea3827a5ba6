import InstanceIdentity.Json.Shape
import InstanceIdentity.Text.Quoted
import InstanceIdentity.Url.Parser

/-!
# Changing the origin of a URL

Scheme, host and port of a URL can be replaced one at a time, where the result is a URL that could
be read.  Rebasing replaces all three by those of another URL and leaves user information, path,
query and fragment alone.
-/

namespace InstanceIdentity.Url

/-- The URL with the port of its authority replaced; the scheme's default is not kept. -/
def replacePort (url : Url) (port : Option Nat) : Url :=
  { url with authority := url.authority.map fun a =>
      { a with port := if port = defaultPort? url.scheme then none else port } }

/-- Sets the port, where there is a host that can have one. -/
def setPort? (url : Url) (port : Option Nat) : Option Url :=
  if url.host?.isNone || url.scheme = "file" then none else some (url.replacePort port)

/-- Sets the scheme.  Special and other schemes do not mix, files have no authority to take over,
and a special scheme asks for a host.  A port that becomes the default is dropped. -/
def setScheme? (url : Url) (scheme : String) : Option Url :=
  if isSpecialScheme scheme != url.isSpecial || (scheme = "file" && url.authority.isSome)
      || (url.host?.isNone && isSpecialScheme scheme) then none
  else
    let moved := { url with scheme := scheme }
    some ((moved.setPort? moved.port?).getD moved)

/-- Sets the host, which a URL without hierarchy cannot have.  The host is handed over as it is: its text is
taken to read back as the host. -/
def setHost? (url : Url) (host : Host) : Option Url :=
  if url.isOpaque then none
  else some { url with authority := some { url.authority.getD {} with host := some host } }

/-- Moves a URL to the scheme, host and port of a base. -/
def rebase? (url base : Url) : Option Url := do
  let host ← base.host?
  let moved ← url.setScheme? base.scheme
  let moved ← moved.setHost? host
  moved.setPort? base.port?

/-- A URL is a JSON text; one that cannot be read is quoted behind the reason. -/
def shape : Json.Shape Url :=
  .text "a string representing an URL"
    (fun s => (ofText s).mapError fun error => error.message ++ ": " ++ Text.quoted s) text

end InstanceIdentity.Url
