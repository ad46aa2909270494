import SchemaPipeline.Json.Value
import SchemaPipeline.Text.Percent

/-!
# JSON Pointers

A pointer is the list of the tokens on the way from the root of a document. Its text writes a `/`
before each token, with `~` as `~0` and `/` as `~1` inside, so that the text determines the tokens.

A token selects a member of an object by its key, or an element of an array by its index in plain
decimal: no sign, no leading zero. There is therefore one pointer only to each node.
-/

namespace SchemaPipeline

structure Pointer where
  tokens : List String
deriving DecidableEq, Repr, Inhabited

namespace Pointer

def root : Pointer := ⟨[]⟩

def isRoot (p : Pointer) : Bool := p.tokens.isEmpty

/-- The pointer to a child. -/
def push (p : Pointer) (token : String) : Pointer := ⟨p.tokens ++ [token]⟩

/-! ## Text -/

def escapeChar (c : Char) : List Char :=
  if c = '~' then ['~', '0'] else if c = '/' then ['~', '1'] else [c]

def escape (cs : List Char) : List Char := cs.flatMap escapeChar

/-- Undoes `escape`; a `~` that escapes nothing stands for itself. -/
def unescape : List Char → List Char
  | '~' :: '0' :: rest => '~' :: unescape rest
  | '~' :: '1' :: rest => '/' :: unescape rest
  | c :: rest => c :: unescape rest
  | [] => []

def textChars (tokens : List String) : List Char :=
  tokens.flatMap fun t => '/' :: escape t.toList

def text (p : Pointer) : String := String.ofList (textChars p.tokens)

/-- The parts between the slashes of a text, at least one. -/
def splitSlashes : List Char → List (List Char)
  | [] => [[]]
  | c :: rest =>
    match splitSlashes rest with
    | [] => [[]]
    | part :: parts => if c = '/' then [] :: part :: parts else (c :: part) :: parts

def parseChars : List Char → Option Pointer
  | [] => some root
  | '/' :: rest => some ⟨(splitSlashes rest).map fun t => String.ofList (unescape t)⟩
  | _ => none

/-- The pointer that a text denotes: the empty text, or one that starts with a slash. -/
def parse (text : String) : Option Pointer := parseChars text.toList

/-- The pointer that a URI fragment denotes once it is percent-decoded. -/
def ofFragment (fragment : String) : Option Pointer :=
  parseChars (Percent.decodeText fragment.toList)

/-! ## Resolution -/

/-- The index that a token denotes. -/
def index? (token : String) : Option Nat :=
  match token.toList with
  | [] => none
  | ['0'] => some 0
  | '0' :: _ => none
  | cs => if cs.all Char.isDigit then some (cs.foldl (fun n c => n * 10 + (c.toNat - 48)) 0)
      else none

/-- The child of a value under a token. -/
def child? : Value → String → Option Value
  | .object ms, token => Members.find? ms token
  | .array xs, token => (index? token).bind (xs[·]?)
  | _, _ => none

/-- The node of a value that a list of tokens leads to. -/
def descend : List String → Value → Option Value
  | [], v => some v
  | t :: rest, v => (child? v t).bind (descend rest)

def resolve (p : Pointer) (v : Value) : Option Value := descend p.tokens v

/-- The token of an array element. -/
def indexToken (i : Nat) : String := String.ofList (Nat.toDigits 10 i)

end Pointer

end SchemaPipeline
