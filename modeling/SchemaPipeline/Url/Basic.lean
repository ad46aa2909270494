import SchemaPipeline.Text.Pieces
import SchemaPipeline.Text.Percent

/-!
# URLs

An absolute URL in its parts. A URL without a host is either a path of its own or an opaque text
after the scheme; one with a host always has a path of segments. Its text puts the parts together
again, and every URL that the parser makes is already in normal form: lower-case scheme and host,
no default port, no dot segments, percent signs where they belong.
-/

namespace SchemaPipeline

inductive UrlPath where
  | opaquePath (text : String)
  | segments (parts : List String)
deriving DecidableEq, Repr, Inhabited

structure Url where
  scheme : String
  username : String
  password : String
  host : Option String
  port : Option Nat
  path : UrlPath
  query : Option String
  fragment : Option String
deriving DecidableEq, Repr, Inhabited

inductive UrlError where
  | emptyHost
  | invalidDomain
  | invalidPort
  | invalidIpv4
  | invalidIpv6
  | invalidDomainCharacter
  | relativeWithoutBase
  | relativeToOpaque
deriving DecidableEq, Repr

namespace UrlError

def message : UrlError → String
  | .emptyHost => "empty host"
  | .invalidDomain => "invalid international domain name"
  | .invalidPort => "invalid port number"
  | .invalidIpv4 => "invalid IPv4 address"
  | .invalidIpv6 => "invalid IPv6 address"
  | .invalidDomainCharacter => "invalid domain character"
  | .relativeWithoutBase => "relative URL without a base"
  | .relativeToOpaque => "relative URL with a cannot-be-a-base base"

end UrlError

namespace Url

/-! ## Schemes -/

def defaultPort (scheme : String) : Option Nat :=
  if scheme = "http" ∨ scheme = "ws" then some 80
  else if scheme = "https" ∨ scheme = "wss" then some 443
  else if scheme = "ftp" then some 21
  else none

def isFile (scheme : String) : Bool := scheme == "file"

/-- The schemes whose URLs always have a host and treat a backslash as a slash. -/
def isSpecial (scheme : String) : Bool := isFile scheme || (defaultPort scheme).isSome

/-- The schemes that a document can be fetched over. -/
def isWeb (u : Url) : Bool := u.scheme == "http" || u.scheme == "https"

/-! ## Text -/

def joinSegments (parts : List String) : String :=
  String.join (parts.map ("/" ++ ·))

def credentials (u : Url) : String :=
  if u.username.isEmpty && u.password.isEmpty then ""
  else if u.password.isEmpty then u.username ++ "@"
  else u.username ++ ":" ++ u.password ++ "@"

def authority (u : Url) (host : String) : String :=
  "//" ++ u.credentials ++ host ++
    match u.port with
    | some p => ":" ++ toString p
    | none => ""

/-- The path as written. Without a host, a path that starts with an empty segment is kept from
reading as one. -/
def pathText (u : Url) : String :=
  match u.path with
  | .opaquePath text => text
  | .segments parts =>
    match u.host, parts with
    | none, "" :: _ :: _ => "/." ++ joinSegments parts
    | _, _ => joinSegments parts

def queryText (u : Url) : String :=
  match u.query with
  | some q => "?" ++ q
  | none => ""

def fragmentText (u : Url) : String :=
  match u.fragment with
  | some f => "#" ++ f
  | none => ""

/-- The text of a URL. -/
def text (u : Url) : String :=
  u.scheme ++ ":" ++ (match u.host with | some h => u.authority h | none => "")
    ++ u.pathText ++ u.queryText ++ u.fragmentText

/-- Whether nothing relative can be resolved against a URL. -/
def isOpaque (u : Url) : Bool :=
  match u.host, u.path with
  | some _, _ => false
  | none, .segments (_ :: _) => false
  | none, _ => true

def dropTrailingSpaces (text : String) : String :=
  String.ofList (text.toList.reverse.dropWhile (· == ' ')).reverse

/-- The URL without its fragment. An opaque path that then ends the text loses its trailing
spaces. -/
def withoutFragment (u : Url) : Url :=
  match u.path, u.query with
  | .opaquePath text, none =>
    { u with fragment := none, path := .opaquePath (dropTrailingSpaces text) }
  | _, _ => { u with fragment := none }

end Url

end SchemaPipeline
