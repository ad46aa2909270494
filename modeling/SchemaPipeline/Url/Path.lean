import SchemaPipeline.Url.Host

/-!
# Paths

A path is read segment by segment, each put behind the text so far. A dot segment goes, and two dots
take the segment before it along, but a drive letter is not taken. In a file's path, a drive letter
right behind the first slash is written with a colon, and the file then has no host.
-/

namespace SchemaPipeline.Url

/-! ## What is percent-encoded where -/

def encodesInFragment (c : Char) : Bool :=
  isControl c || [' ', '"', '<', '>', Char.ofNat 0x60].contains c

def encodesInPath (c : Char) : Bool :=
  encodesInFragment c || ['#', '?', '\x7b', '\x7d'].contains c

/-! ## Drive letters -/

/-- Whether a segment is a drive letter with its colon. -/
def isDrive (segment : List Char) : Bool :=
  match segment with
  | [a, ':'] => a.isAlpha
  | _ => false

/-- Whether a segment is a drive letter with its colon, or with the bar that may stand for it. -/
def isDriveLetter (segment : List Char) : Bool :=
  match segment with
  | [a, '|'] => a.isAlpha
  | _ => isDrive segment

def endsPath (c : Char) : Bool := c == '?' || c == '#'

/-- Whether a text starts with a drive letter as its whole first segment. -/
def startsWithDriveLetter (cs : List Char) : Bool :=
  isDriveLetter (cs.take 2) &&
    (match cs.drop 2 with
     | [] => true
     | c :: _ => c == '/' || c == '\\' || endsPath c)

/-! ## Segments -/

def isSlash (special : Bool) (c : Char) : Bool := c == '/' || (special && c == '\\')

def isDoubleDot (segment : List Char) : Bool :=
  ["..", "%2e.", ".%2e", "%2e%2e"].contains (String.ofList (Text.lowerAscii segment))

def isSingleDot (segment : List Char) : Bool :=
  [".", "%2e"].contains (String.ofList (Text.lowerAscii segment))

def endsInSlash (path : List Char) : Bool := path.getLast? == some '/'

/-- A text up to its last slash, and what is after it. -/
def splitAtLastSlash (path : List Char) : List Char × List Char :=
  ((path.reverse.dropWhile (· != '/')).reverse, (path.reverse.takeWhile (· != '/')).reverse)

/-- A path without what is after its last slash. A file's drive letter stays. -/
def dropLastSegment (file : Bool) (path : List Char) : List Char :=
  let (before, segment) := splitAtLastSlash path
  if file && isDrive segment then path else before

/-- A path that ends in a slash without the segment before that slash. -/
def goUp (file : Bool) (path : List Char) : List Char :=
  let inner := path.dropLast
  let (before, segment) := splitAtLastSlash inner
  if endsInSlash path && !before.isEmpty && !isDriveLetter segment then
    dropLastSegment file inner
  else dropLastSegment file path

/-- A path with a drive letter in it that has to be set off from what follows. -/
def setOff (file : Bool) (path : List Char) (segment : List Char) : List Char :=
  if file && isDrive (path.drop 1) && !segment.isEmpty then path ++ ['/'] else path

/-- A path on its way: its text, and whether a drive letter takes the place of a host. -/
structure PathText where
  text : List Char
  drive : Bool

/-- The path with one more segment, and a slash after it or not. -/
def PathText.add (file : Bool) (p : PathText) (segment : List Char) (slash : Bool) : PathText :=
  let start := setOff file p.text segment
  let written := Percent.encode encodesInPath segment
  let close (text : List Char) : List Char := if slash then text ++ ['/'] else text
  if isDoubleDot written then
    let text := goUp file start
    { p with text := if slash && !endsInSlash text then text ++ ['/'] else text }
  else if isSingleDot written then
    { p with text := if endsInSlash start then start else start ++ ['/'] }
  else if file && start.length == 1 && isDriveLetter written then
    ⟨close (start ++ written.take 1 ++ [':']), true⟩
  else { p with text := close (start ++ written) }

/-- The path with the segments of a text, which slashes separate. -/
def PathText.addAll (file : Bool) (p : PathText) : List (List Char) → PathText
  | [] => p
  | [segment] => p.add file segment false
  | segment :: rest => (p.add file segment true).addAll file rest

/-- The text of a file's path starts with one slash. -/
def singleSlash (path : List Char) : List Char := '/' :: path.dropWhile (· == '/')

/-- The segments of a path from its text. -/
def segmentsOfText (text : List Char) : List String :=
  match text with
  | [] => []
  | _ :: rest => (Text.splitOn (· == '/') rest).map String.ofList

/-- The path that a text adds to the text of a path, whether a drive letter takes the place of the
host, and the text after the path. -/
def readPath (scheme : String) (start : List Char) (cs : List Char) : UrlPath × Bool × List Char :=
  let (path, rest) := Text.spanUntil endsPath cs
  let file := isFile scheme
  let p := PathText.addAll file ⟨start, false⟩ (Text.splitOn (isSlash (isSpecial scheme)) path)
  let text := if file then singleSlash p.text else p.text
  (.segments (segmentsOfText text), p.drive, rest)

/-- The text of a path without its last segment. -/
def parentText (file : Bool) (u : Url) : List Char :=
  match u.path with
  | .opaquePath _ => []
  | .segments parts => dropLastSegment file (joinSegments parts).toList

end SchemaPipeline.Url
