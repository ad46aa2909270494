import SchemaPipeline.Url.Path

/-!
# Reading URLs

`parse` reads an absolute URL, `join` one that may be relative to another. Control characters and
spaces around the text are dropped, tabs and line breaks within it too. What is left is read once
from left to right, each part cut off where its delimiter stands.
-/

namespace SchemaPipeline.Url

/-! ## What is percent-encoded where -/

def encodesInQuery (special : Bool) (c : Char) : Bool :=
  isControl c || [' ', '"', '#', '<', '>'].contains c || (special && c.toNat == 0x27)

def encodesInCredentials (c : Char) : Bool :=
  encodesInPath c || ['/', ':', ';', '=', '@', '[', '\\', ']', '^', '|'].contains c

def encoded (reserved : Char → Bool) (cs : List Char) : String :=
  String.ofList (Percent.encode reserved cs)

/-! ## Query and fragment -/

/-- The URL with the query and the fragment that end its text. -/
def withTail (u : Url) (cs : List Char) : Url :=
  let (query, rest) :=
    match cs with
    | '?' :: rest =>
      let (q, rest) := Text.spanUntil (· == '#') rest
      (some (encoded (encodesInQuery (isSpecial u.scheme)) q), rest)
    | _ => (none, cs)
  let fragment :=
    match rest with
    | '#' :: f => some (encoded encodesInFragment f)
    | _ => none
  { u with query := query, fragment := fragment }

/-! ## Authorities -/

def endsAuthority (special : Bool) (c : Char) : Bool := isSlash special c || endsPath c

/-- The user name and the password before the last `@` of an authority, and the text after it. -/
def readCredentials (special : Bool) (cs : List Char) :
    Except UrlError (String × String × List Char) :=
  let (auth, rest) := Text.spanUntil (endsAuthority special) cs
  match Text.splitLast '@' auth with
  | none => .ok ("", "", cs)
  | some ([], []) => if rest.isEmpty then .ok ("", "", []) else .error .emptyHost
  | some (info, host) =>
    let (user, password) := (Text.splitFirst ':' info).getD (info, [])
    .ok (encoded encodesInCredentials user, encoded encodesInCredentials password, host ++ rest)

/-- The written host at the head of a text, which ends at a colon outside brackets. -/
def spanHost (special : Bool) : Bool → List Char → List Char × List Char
  | _, [] => ([], [])
  | inside, c :: rest =>
    if (c == ':' && !inside) || endsAuthority special c then ([], c :: rest)
    else
      let inside := if c == '[' then true else if c == ']' then false else inside
      let (host, rest) := spanHost special inside rest
      (c :: host, rest)

def readHost (special : Bool) (cs : List Char) : Except UrlError (String × List Char) :=
  let (written, rest) := spanHost special false cs
  if special then
    if written.isEmpty then .error .emptyHost
    else (parseSpecialHost written).map (·, rest)
  else do
    let host ← parseOpaqueHost written
    if host.isEmpty && rest.head? == some ':' then .error .emptyHost
    else .ok (host, rest)

/-- The port after a colon, none if it is empty or the default one of the scheme. -/
def readPort (scheme : String) (cs : List Char) : Except UrlError (Option Nat × List Char) :=
  match cs with
  | ':' :: rest =>
    let (ds, rest) := Text.spanUntil (!·.isDigit) rest
    let n := ds.foldl (fun n c => n * 10 + (c.toNat - '0'.toNat)) 0
    let ends :=
      match rest with
      | [] => true
      | c :: _ => c == '/' || c == '\\' || endsPath c
    if 65535 < n ∨ !ends then .error .invalidPort
    else .ok (if ds.isEmpty ∨ defaultPort scheme = some n then none else some n, rest)
  | _ => .ok (none, cs)

/-- The path after an authority, and whether a drive letter takes the place of the host. -/
def readPathStart (scheme : String) (cs : List Char) : UrlPath × Bool × List Char :=
  match cs with
  | c :: rest =>
    if isSpecial scheme then readPath scheme ['/'] (if isSlash true c then rest else cs)
    else if endsPath c then (.segments [], false, cs)
    else readPath scheme (if c = '/' then [] else ['/']) cs
  | [] => readPath scheme (if isSpecial scheme then ['/'] else []) []

def readAfterSlashes (scheme : String) (cs : List Char) : Except UrlError Url := do
  let special := isSpecial scheme
  let (username, password, rest) ← readCredentials special cs
  let (host, rest) ← readHost special rest
  if host.isEmpty && !(username.isEmpty && password.isEmpty) then .error .emptyHost
  else do
    let (port, rest) ← readPort scheme rest
    let (path, _, rest) := readPathStart scheme rest
    .ok (withTail ⟨scheme, username, password, some host, port, path, none, none⟩ rest)

/-! ## Files -/

def emptyFile : Url := ⟨"file", "", "", some "", none, .segments [], none, none⟩

/-- A URL with the path that a text adds to the text of one, and with what follows the path. -/
def withPath (u : Url) (start cs : List Char) : Url :=
  let (path, _, rest) := readPath u.scheme start cs
  withTail { u with path } rest

/-- The host of a file; none is meant by the name of this machine. -/
def readFileName (written : List Char) : Except UrlError String :=
  if written.isEmpty || isDriveLetter written then .ok ""
  else (parseSpecialHost written).map fun host => if host = "localhost" then "" else host

/-- What follows two slashes after the scheme of a file. -/
def readFileHost (cs : List Char) : Except UrlError Url := do
  let (written, rest) := Text.spanUntil (endsAuthority true) cs
  let host ← readFileName written
  if isDriveLetter written then .ok (withPath emptyFile ['/'] cs)
  else if host.isEmpty then .ok (withPath emptyFile ['/'] rest)
  else
    let (path, drive, rest) := readPathStart "file" rest
    .ok (withTail { emptyFile with host := some (if drive then "" else host), path } rest)

/-- The drive that a path is on. -/
def driveOf (u : Url) : Option String :=
  match u.path with
  | .segments (p :: _) => if isDrive p.toList then some p else none
  | _ => none

/-- What follows the scheme of a file if it is a single slash. -/
def readFileSlash (base : Option Url) (cs : List Char) : Url :=
  match base with
  | none => withPath emptyFile [] cs
  | some b =>
    if startsWithDriveLetter (cs.drop 1) then withPath emptyFile [] cs
    else
      match driveOf b with
      | some drive => withPath emptyFile ('/' :: drive.toList) cs
      | none => withPath { emptyFile with host := b.host } [] cs

/-- A file URL, from the text after its scheme or relative to another file. -/
def readFile (base : Option Url) (cs : List Char) : Except UrlError Url :=
  match cs, base with
  | [], some b => .ok { b with fragment := none }
  | [], none => .ok (withPath emptyFile ['/'] [])
  | c :: rest, _ =>
    if isSlash true c then
      if rest.head?.any (isSlash true) then readFileHost (rest.drop 1)
      else .ok (readFileSlash base cs)
    else
      match base with
      | none => .ok (withPath emptyFile ['/'] cs)
      | some b =>
        if c = '?' then .ok (withTail b cs)
        else if c = '#' then .ok { withTail b cs with query := b.query }
        else if startsWithDriveLetter cs then .ok (withPath emptyFile ['/'] cs)
        else .ok (withPath b (parentText true b) cs)

/-! ## Relative references -/

/-- A reference that is not a file, relative to a URL that is not opaque. At its head a backslash
is a slash under every scheme. Two plain slashes start an authority by themselves; other pairs are
followed by any number of slashes before it. -/
def readRelative (base : Url) (cs : List Char) : Except UrlError Url :=
  match cs with
  | [] => .ok { base with fragment := none }
  | '?' :: _ => .ok (withTail base cs)
  | '#' :: _ => .ok { withTail base cs with query := base.query }
  | '/' :: '/' :: rest => readAfterSlashes base.scheme rest
  | c :: rest =>
    if isSlash true c then
      if rest.head?.any (isSlash true) then
        readAfterSlashes base.scheme (rest.dropWhile (isSlash true))
      else .ok (withPath base ['/'] rest)
    else
      let parent := parentText false base
      .ok (withPath base (if parent.isEmpty then ['/'] else parent) cs)

/-! ## Schemes -/

/-- The scheme before the first colon, in lower case, and the text after the colon. -/
def readScheme (cs : List Char) : Option (String × List Char) :=
  match Text.splitFirst ':' cs with
  | some (c :: name, rest) =>
    if c.isAlpha && name.all fun d => d.isAlphanum || d == '+' || d == '-' || d == '.' then
      some (String.ofList (Text.lowerAscii (c :: name)), rest)
    else none
  | _ => none

/-- A URL of a scheme that is not special. -/
def readOrdinary (scheme : String) (cs : List Char) : Except UrlError Url :=
  let start : Url := ⟨scheme, "", "", none, none, .segments [], none, none⟩
  match cs with
  | '/' :: '/' :: rest => readAfterSlashes scheme rest
  | '/' :: rest => .ok (withPath start ['/'] rest)
  | _ =>
    let (path, rest) := Text.spanUntil endsPath cs
    .ok (withTail { start with path := .opaquePath (encoded isControl path) } rest)

def baseOfScheme (base : Option Url) (scheme : String) : Option Url :=
  base.filter (·.scheme == scheme)

/-- A URL with its scheme already read. -/
def readWithScheme (base : Option Url) (scheme : String) (cs : List Char) : Except UrlError Url :=
  if isFile scheme then readFile (baseOfScheme base scheme) cs
  else if isSpecial scheme then
    let slashes := (cs.takeWhile (isSlash true)).length
    match baseOfScheme base scheme with
    | some b => if slashes < 2 then readRelative b cs else readAfterSlashes scheme (cs.drop slashes)
    | none => readAfterSlashes scheme (cs.drop slashes)
  else readOrdinary scheme cs

/-! ## Whole texts -/

def isEdge (c : Char) : Bool := c.toNat ≤ 0x20

def isSkipped (c : Char) : Bool := c == '\t' || c == '\n' || c == '\r'

/-- The characters of a text that count. -/
def significant (text : String) : List Char :=
  (Text.trim isEdge text.toList).filter (!isSkipped ·)

def parseWith (base : Option Url) (text : String) : Except UrlError Url :=
  let cs := significant text
  match readScheme cs with
  | some (scheme, rest) => readWithScheme base scheme rest
  | none =>
    match base with
    | none => .error .relativeWithoutBase
    | some b =>
      if cs.head? = some '#' then .ok { withTail b cs with query := b.query }
      else if b.isOpaque then .error .relativeToOpaque
      else if isFile b.scheme then readFile (some b) cs
      else readRelative b cs

/-- The URL that a text denotes by itself. -/
def parse (text : String) : Except UrlError Url := parseWith none text

def parse? (text : String) : Option Url := (parse text).toOption

/-- The URL that a text denotes relative to another. -/
def join (base : Url) (text : String) : Except UrlError Url := parseWith (some base) text

def join? (base : Url) (text : String) : Option Url := (join base text).toOption

end SchemaPipeline.Url
