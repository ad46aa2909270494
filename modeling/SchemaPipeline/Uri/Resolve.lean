import SchemaPipeline.Uri.Basic

/-!
# Resolving and normalizing URIs

A reference relative to a URI takes over the parts of the URI up to the first part of its own.
Normalization then makes identifiers comparable as texts: percent-encoded characters that need no
encoding are decoded, the case of scheme and host is folded, empty ports and dot segments go.
-/

namespace SchemaPipeline.Uri

/-! ## Dot segments -/

def isDouble (segment : String) : Bool := segment == ".."

/-- The segments of a path after its leading slash, without the dot segments. -/
def removeDots : List String → List String → List String
  | kept, [] => kept
  | kept, ["."] => kept ++ [""]
  | kept, [".."] => kept.dropLast ++ [""]
  | kept, "." :: rest => removeDots kept rest
  | kept, ".." :: rest => removeDots kept.dropLast rest
  | kept, s :: rest => removeDots (kept ++ [s]) rest

def pathSegments (cs : List Char) : List String :=
  (Text.splitOn (· == '/') cs).map String.ofList

/-- A path without dot segments; only a path that starts with a slash has any to remove. -/
def normalPath (path : String) : String :=
  match path.toList with
  | '/' :: rest => "/" ++ "/".intercalate (removeDots [] (pathSegments rest))
  | _ => path

/-! ## Resolution -/

/-- The path of a URI up to its last slash, with a relative path put after it. -/
def mergedPath (base : Uri) (path : String) : String :=
  if base.authority.isSome && base.path.isEmpty then "/" ++ path
  else
    match Text.splitLast '/' base.path.toList with
    | some (before, _) => String.ofList before ++ "/" ++ path
    | none => path

/-- A reference seen from a URI; the fragment of the URI plays no part. -/
def resolve (base reference : Uri) : Uri :=
  let tail (u : Uri) : Uri := { u with fragment := reference.fragment }
  match reference.scheme, reference.authority with
  | some _, _ => { reference with path := normalPath reference.path }
  | none, some a =>
    tail ⟨base.scheme, some a, normalPath reference.path, reference.query, none⟩
  | none, none =>
    if reference.path.isEmpty then
      tail { base with query := reference.query.or base.query }
    else if reference.path.toList.head? = some '/' then
      tail { base with path := normalPath reference.path, query := reference.query }
    else
      tail { base with path := normalPath (mergedPath base reference.path),
                       query := reference.query }

/-- Why nothing can be seen from a URI, or not a given reference. -/
inductive ResolveFault where
  /-- What the URI names is a part of a document. -/
  | fragment
  /-- The URI has no authority and its path starts with no slash, so that only fragments can be
  seen from it. -/
  | noHierarchy
deriving DecidableEq, Repr

namespace ResolveFault

def message : ResolveFault → String
  | .fragment => "base URI/IRI with fragment"
  | .noHierarchy =>
    "relative reference must be empty or start with '#' when resolved against " ++
      "authority-less base URI/IRI with rootless path"

end ResolveFault

/-- Whether nothing relative but a fragment can be seen from a URI. -/
def isRootless (u : Uri) : Bool := u.authority.isNone && u.path.toList.head? != some '/'

/-- Whether a reference has no part but perhaps a fragment. -/
def isFragmentOnly (r : Uri) : Bool :=
  r.scheme.isNone && r.authority.isNone && r.path.isEmpty && r.query.isNone

/-- A reference seen from a URI, if it can be. -/
def resolve? (base reference : Uri) : Except ResolveFault Uri :=
  if base.fragment.isSome then .error .fragment
  else if base.isRootless && reference.scheme.isNone && !reference.isFragmentOnly then
    .error .noHierarchy
  else .ok (resolve base reference)

/-! ## Normal form -/

/-- Decodes the encoded characters that need no encoding, and writes the other octets in upper
case. -/
def normalOctets : List Char → List Char
  | '%' :: h :: l :: rest =>
    match Url.radixDigit? h, Url.radixDigit? l with
    | some a, some b =>
      let c := Char.ofNat (a * 16 + b)
      if isUnreserved c then c :: normalOctets rest
      else '%' :: h.toUpper :: l.toUpper :: normalOctets rest
    | _, _ => '%' :: normalOctets (h :: l :: rest)
  | c :: rest => c :: normalOctets rest
  | [] => []

def normalText (s : String) : String := String.ofList (normalOctets s.toList)

/-- Lower case outside of percent-encoded octets. -/
def lowerName : List Char → List Char
  | '%' :: h :: l :: rest => '%' :: h :: l :: lowerName rest
  | c :: rest => c.toLower :: lowerName rest
  | [] => []

def splitCredentials (cs : List Char) : List Char × List Char :=
  match Text.splitLast '@' cs with
  | some (info, host) => (info ++ ['@'], host)
  | none => ([], cs)

/-- A host and the digits of its port. -/
def splitPort (cs : List Char) : List Char × Option (List Char) :=
  match Text.splitLast ':' cs with
  | some (host, port) =>
    if port.all Char.isDigit then (host, some port) else (cs, none)
  | none => (cs, none)

/-- The text of an address; one that stands for an address of four numbers shows these. -/
def addressText (pieces : List Nat) : String :=
  match pieces with
  | [0, 0, 0, 0, 0, 0xffff, a, b] =>
    "::ffff:" ++ ".".intercalate ([a / 256, a % 256, b / 256, b % 256].map toString)
  | _ => Url.ipv6Text pieces

def normalHost (cs : List Char) : List Char :=
  match cs with
  | '[' :: rest =>
    match Url.ipv6Pieces? rest.dropLast with
    | some ps => '[' :: ((addressText ps).toList ++ [']'])
    | none => lowerName cs
  | _ => lowerName (normalOctets cs)

def normalAuthority (authority : String) : String :=
  let (info, host) := splitCredentials authority.toList
  let (host, port) := splitPort host
  let written := normalOctets info ++ normalHost host
  match port with
  | none | some [] => String.ofList written
  | some ds => String.ofList (written ++ ':' :: ds)

/-- A path that could be taken for an authority is kept from it. -/
def guardPath (authority : Option String) (path : String) : String :=
  match authority, path.toList with
  | none, '/' :: '/' :: _ => "/." ++ path
  | _, _ => path

def normalize (u : Uri) : Uri :=
  let scheme := u.scheme.map fun s => String.ofList (Text.lowerAscii s.toList)
  let authority := u.authority.map normalAuthority
  let path := normalText u.path
  let path := if scheme.isSome then normalPath path else path
  ⟨scheme, authority, guardPath authority path, u.query.map normalText, u.fragment.map normalText⟩

end SchemaPipeline.Uri
