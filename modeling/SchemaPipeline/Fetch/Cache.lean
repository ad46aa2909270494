import SchemaPipeline.Documents
import SchemaPipeline.Fetch.Network
import SchemaPipeline.Json.Reader
import SchemaPipeline.Reference.Uri

/-!
# The cache of remote documents

Documents under their normalized names. A document that is found is not asked for again; one that
is not is fetched over the web, and kept if the answer has a status below 300 and a JSON body. A
fetch that fails leaves the cache as it was.

A fetch begins with a look at the cache, which settles it or turns it into a request; the reply to
the request ends it. The two halves are apart because several fetches can be under way at once.
-/

namespace SchemaPipeline

inductive FetchError where
  | invalidUri (uri reason : String)
  | transport (uri reason : String)
  | status (uri : String) (code : Nat)
  | notJson (uri : String)
deriving DecidableEq, Repr

namespace FetchError

def message : FetchError → String
  | .invalidUri uri reason => "invalid schema URI '" ++ uri ++ "': " ++ reason
  | .transport uri reason => "HTTP error fetching " ++ uri ++ ": " ++ reason
  | .status uri code => "Request failed. Status Code: " ++ toString code ++ " (" ++ uri ++ ")"
  | .notJson uri => "invalid JSON in schema fetched from " ++ uri

end FetchError

/-- Documents under normalized names. -/
abbrev Cache := Documents

namespace Cache

def put (c : Cache) (uri : String) (document : Value) : Cache :=
  Documents.insert c (Reference.normalize uri) document

def get? (c : Cache) (uri : String) : Option Value := Documents.find? c (Reference.normalize uri)

def has (c : Cache) (uri : String) : Bool := (c.get? uri).isSome

/-! ## Fetching -/

/-- A request under way: the name that its document will have, and where it goes. -/
structure Request where
  name : String
  url : Url

/-- What a look at the cache comes to. -/
inductive Start where
  | hit (document : Value)
  | refused (error : FetchError)
  | request (r : Request)

/-- The name of the document is looked up like any other URI, so it is normalized once more. This
makes a difference where a name is not its own normal form. -/
def start (c : Cache) (uri : String) : Start :=
  let name := Reference.normalize uri
  match c.get? name with
  | some document => .hit document
  | none =>
    match Url.parse name with
    | .error e => .refused (.invalidUri name e.message)
    | .ok url =>
      if url.isWeb then .request ⟨name, url⟩
      else .refused (.invalidUri name ("unsupported scheme '" ++ url.scheme ++ "'"))

/-- The document in a reply. -/
def read (name : String) : Reply → Except FetchError Value
  | .failed reason => .error (.transport name reason)
  | .answered code body =>
    if 300 ≤ code then .error (.status name code)
    else
      match body with
      | none => .error (.transport name "error decoding response body")
      | some bytes =>
        match (Utf8.decode? bytes).bind fun cs => Json.parse (String.ofList cs) with
        | some document => .ok document
        | none => .error (.notJson name)

/-- Ends a request with its reply. -/
def finish (c : Cache) (r : Request) (reply : Reply) : Except FetchError Value × Cache :=
  match read r.name reply with
  | .ok document => (.ok document, Documents.insert c r.name document)
  | .error e => (.error e, c)

/-- The document under a URI, from the cache or the network. -/
def fetch (net : Network) (c : Cache) (uri : String) : Except FetchError Value × Cache :=
  match c.start uri with
  | .hit document => (.ok document, c)
  | .refused e => (.error e, c)
  | .request r => c.finish r (net r.url)

/-! ## Several fetches at once -/

/-- The requests of a list of fetches that begin at once, unless one of them is refused. -/
def startAll (c : Cache) : List String → Except FetchError (List Request)
  | [] => .ok []
  | uri :: rest =>
    match c.start uri with
    | .refused e => .error e
    | .hit _ => c.startAll rest
    | .request r => (c.startAll rest).map (r :: ·)

/-- Ends requests one after the other until one fails. -/
def finishAll (net : Network) : Cache → List Request → Except FetchError Unit × Cache
  | c, [] => (.ok (), c)
  | c, r :: rest =>
    match c.finish r (net r.url) with
    | (.ok _, c) => finishAll net c rest
    | (.error e, c) => (.error e, c)

/-- Fetches several documents at once; the replies come in the order that is given. The requests
that were made are the second part of the result. -/
def fetchAll (net : Network) (arrival : List Request → List Request) (c : Cache)
    (uris : List String) : Except FetchError Unit × List Request × Cache :=
  match c.startAll uris with
  | .error e => (.error e, [], c)
  | .ok requests =>
    let (result, c) := finishAll net c (arrival requests)
    (result, requests, c)

end Cache

end SchemaPipeline
