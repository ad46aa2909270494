import SchemaPipeline.Text.Utf8
import SchemaPipeline.Url.Parser

/-!
# Networks

What comes back when a document is asked for over the web. A transport answers one request; a
network answers for good, after the redirections that the answers ask for. A redirection without a
usable place to go on is an answer like any other, and too many in a row are a failure.
-/

namespace SchemaPipeline

/-- What a network has to say to a request: no answer, or a status with a body, which may have
broken off. -/
inductive Reply where
  | failed (reason : String)
  | answered (status : Nat) (body : Option Utf8.Bytes)
deriving DecidableEq, Repr

abbrev Network := Url → Reply

/-- An answer with the place that it redirects to. -/
structure Exchange where
  reply : Reply
  location : Option String

abbrev Transport := Url → Exchange

namespace Network

def maxRedirections : Nat := 10

def isRedirection (status : Nat) : Bool := [301, 302, 303, 307, 308].contains status

/-- Where an answer sends the request, if anywhere. -/
def next? (url : Url) (e : Exchange) : Option Url :=
  match e.reply with
  | .answered status _ => if isRedirection status then e.location.bind url.join? else none
  | .failed _ => none

def sendingFailed (url : Url) : String := "error sending request for url (" ++ url.text ++ ")"

/-- The answer to a request that may be redirected so many times. -/
def followFrom (t : Transport) : Nat → Url → Reply
  | hops, url =>
    match next? url (t url) with
    | none => (t url).reply
    | some target =>
      match hops with
      | 0 => .failed ("error following redirect for url (" ++ target.text ++ ")")
      | hops + 1 => followFrom t hops target

/-- The network over a transport. -/
def ofTransport (t : Transport) : Network := followFrom t maxRedirections

/-- A network that reaches nothing. -/
def unreachable : Network := fun url => .failed (sendingFailed url)

end Network

end SchemaPipeline
