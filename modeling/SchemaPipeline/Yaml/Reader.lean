import SchemaPipeline.Yaml.Layout
import SchemaPipeline.Yaml.Node

/-!
# Documents from tokens

The document that a list of tokens spells. A block with the dashes of a sequence may do without a
start where it belongs to a key. Where a node may be left out, an empty scalar takes its place.

Each name has a number, which is how many names there are before it; a name that is given again gets
a number once more, which may then be that of another name too. What counts for a number is the
last node that starts with it.

The readers of nodes are given fuel. Every call either passes a token or hands over to one that
does, in at most three steps.
-/

namespace SchemaPipeline.Yaml

/-- The state of the reader: the tokens to come, the texts that handles stand for, the numbers of
the names, the places where the nodes of a number start, the nodes by the place of their start, and
the place itself. -/
structure Reading where
  tokens : List Token
  handles : List (String × Utf8.Bytes)
  numbers : List (String × Nat)
  starts : List (Nat × Nat)
  nodes : List (Nat × Node)
  place : Nat

abbrev Read (α : Type) : Type := StateT Reading Option α

namespace Read

def fail {α : Type} : Read α := fun _ => none

def peek : Read (Option Token) := fun r => some (r.tokens.head?, r)

def skip : Read Unit := fun r => some ((), { r with tokens := r.tokens.drop 1 })

/-- Counts a thing in the document. -/
def count : Read Unit := fun r => some ((), { r with place := r.place + 1 })

def expect (t : Token) : Read Unit := do
  if (← peek) = some t then skip else fail

/-- Whether the next token is one of some, or there is none. -/
def atOneOf (ts : List Token) : Read Bool := do
  match ← peek with
  | some t => pure (ts.contains t)
  | none => pure false

def emptyNode : Read Node := do
  count
  pure Node.empty

/-! ## Names and tags -/

/-- Gives a name to the node that starts here. -/
def giveName : Option String → Read Unit
  | none => pure ()
  | some name => fun r =>
    let number := r.numbers.length
    let numbers := (name, number) :: r.numbers.filter (·.1 != name)
    some ((), { r with numbers, starts := (number, r.place) :: r.starts })

/-- Keeps a node under the place of its start. -/
def keep (start : Nat) (n : Node) : Read Node := fun r =>
  some (n, { r with nodes := (start, n) :: r.nodes })

def numberOf (name : String) : Read Nat := fun r => (r.numbers.lookup name).map (·, r)

/-- The full text of a tag. -/
def tagText (handle : String) (rest : Utf8.Bytes) : Read Utf8.Bytes :=
  if handle.isEmpty then pure rest
  else fun r => (r.handles.lookup handle).map fun start => (start ++ rest, r)

/-- What is written before a node. -/
structure Properties where
  anchor : Option String
  tag : Option Utf8.Bytes

def Properties.any (p : Properties) : Bool := p.anchor.isSome || p.tag.any (!List.isEmpty ·)

def anchor? : Read (Option String) := do
  match ← peek with
  | some (.anchor name) => do
    skip
    pure (some name)
  | _ => pure none

def tag? : Read (Option (String × Utf8.Bytes)) := do
  match ← peek with
  | some (.tag handle rest) => do
    skip
    pure (some (handle, rest))
  | _ => pure none

/-- The properties of a node, of each kind one at most. -/
def properties : Read Properties := do
  let before ← anchor?
  let tag ← tag?
  let anchor ← if before.isSome then pure before else anchor?
  match tag with
  | none => pure ⟨anchor, none⟩
  | some (handle, rest) => do
    let text ← tagText handle rest
    pure ⟨anchor, some text⟩

/-- The text of a tag that leaves a scalar to its look. -/
def noTagText : Utf8.Bytes := [0x21]

def scalarTag (p : Properties) : Option Tag :=
  if p.tag = some noTagText then none else p.tag.bind Tag.ofBytes

/-! ## Nodes -/

/-- What a sequence or a mapping starts with, and what it ends with. -/
inductive Shape where
  | dashes
  | indentedDashes
  | keys
  | brackets
  | braces

def shape? (block indentless : Bool) (t : Option Token) : Option Shape :=
  match t with
  | some .blockEntry => if indentless then some .dashes else none
  | some .flowSequenceStart => some .brackets
  | some .flowMappingStart => some .braces
  | some .blockSequenceStart => if block then some .indentedDashes else none
  | some .blockMappingStart => if block then some .keys else none
  | _ => none

/-- Whether the next token belongs to what is around an entry of a block. -/
def atBlockStop : Read Bool := atOneOf [.key, .value, .blockEnd]

mutual

/-- A node. Outside of blocks none starts; below a key, dashes may come without a start. -/
def node : Nat → Bool → Bool → Read Node
  | 0, _, _ => fail
  | fuel + 1, block, indentless => do
    match ← peek with
    | some (.alias name) => do
      let number ← numberOf name
      skip
      count
      pure (.alias number)
    | _ => do
      let p ← properties
      giveName p.anchor
      let start ← fun r => some (r.place, r)
      count
      let t ← peek
      match shape? block indentless t, t with
      | some shape, _ => do
        let n ← collection fuel shape (p.tag.bind Tag.ofBytes)
        count
        keep start n
      | none, some (.scalar style text) => do
        skip
        keep start (.scalar (scalarTag p) style text)
      | none, _ =>
        if p.any then keep start (.scalar (p.tag.bind Tag.ofBytes) .plain "") else fail

/-- A sequence or a mapping. -/
def collection : Nat → Shape → Option Tag → Read Node
  | 0, _, _ => fail
  | fuel + 1, shape, tag => do
    match shape with
    | .dashes => do
      let items ← dashItems fuel
      pure (.sequence tag items)
    | .indentedDashes => do
      skip
      let items ← blockItems fuel
      pure (.sequence tag items)
    | .keys => do
      skip
      let entries ← blockEntries fuel
      pure (.mapping tag entries)
    | .brackets => do
      skip
      let items ← flowItems fuel true
      pure (.sequence tag items)
    | .braces => do
      skip
      let entries ← flowEntries fuel true
      pure (.mapping tag entries)

/-- The items of a sequence without a start of its own. -/
def dashItems : Nat → Read (List Node)
  | 0 => fail
  | fuel + 1 => do
    if (← peek) = some .blockEntry then do
      skip
      let n ←
        if ← atOneOf [.blockEntry, .key, .value, .blockEnd] then emptyNode
        else node fuel true false
      let items ← dashItems fuel
      pure (n :: items)
    else pure []

def blockItems : Nat → Read (List Node)
  | 0 => fail
  | fuel + 1 => do
    if (← peek) = some .blockEntry then do
      skip
      let n ← if ← atOneOf [.blockEntry, .blockEnd] then emptyNode else node fuel true false
      let items ← blockItems fuel
      pure (n :: items)
    else do
      expect .blockEnd
      pure []

/-- The node after a question mark or a colon in a block. -/
def blockPart : Nat → Read Node
  | 0 => fail
  | fuel + 1 => do
    skip
    if ← atBlockStop then emptyNode else node fuel true true

def blockEntries : Nat → Read (List (Node × Node))
  | 0 => fail
  | fuel + 1 => do
    if (← peek) = some .key then do
      let k ← blockPart fuel
      let v ← if (← peek) = some .value then blockPart fuel else emptyNode
      let entries ← blockEntries fuel
      pure ((k, v) :: entries)
    else do
      expect .blockEnd
      pure []

/-- The node after a colon in brackets, if there is a colon. -/
def flowValue : Nat → Token → Read Node
  | 0, _ => fail
  | fuel + 1, close => do
    if (← peek) = some .value then do
      skip
      if ← atOneOf [.flowEntry, close] then emptyNode else node fuel false false
    else emptyNode

/-- A pair among the items of a sequence in brackets. A key that is left out takes the token that
follows it along. -/
def flowPair : Nat → Read Node
  | 0 => fail
  | fuel + 1 => do
    skip
    count
    let k ←
      if ← atOneOf [.value, .flowEntry, .flowSequenceEnd] then do
        skip
        emptyNode
      else node fuel false false
    let v ← flowValue fuel .flowSequenceEnd
    count
    pure (.mapping none [(k, v)])

/-- The items up to a closing bracket, with commas between them. -/
def flowItems : Nat → Bool → Read (List Node)
  | 0, _ => fail
  | fuel + 1, first => do
    if (← peek) = some .flowSequenceEnd then do
      skip
      pure []
    else do
      if !first then expect .flowEntry
      match ← peek with
      | some .flowSequenceEnd => do
        skip
        pure []
      | some .key => do
        let n ← flowPair fuel
        let items ← flowItems fuel false
        pure (n :: items)
      | _ => do
        let n ← node fuel false false
        let items ← flowItems fuel false
        pure (n :: items)

/-- The entries up to a closing brace, with commas between them. -/
def flowEntries : Nat → Bool → Read (List (Node × Node))
  | 0, _ => fail
  | fuel + 1, first => do
    if (← peek) = some .flowMappingEnd then do
      skip
      pure []
    else do
      if !first then expect .flowEntry
      match ← peek with
      | some .flowMappingEnd => do
        skip
        pure []
      | some .key => do
        skip
        let k ←
          if ← atOneOf [.value, .flowEntry, .flowMappingEnd] then emptyNode
          else node fuel false false
        let v ← flowValue fuel .flowMappingEnd
        let entries ← flowEntries fuel false
        pure ((k, v) :: entries)
      | _ => do
        let k ← node fuel false false
        let v ← emptyNode
        let entries ← flowEntries fuel false
        pure ((k, v) :: entries)

end

/-! ## Documents -/

/-- What handles stand for if a document does not say otherwise. -/
def commonHandles : List (String × Utf8.Bytes) :=
  [("!", [0x21]), ("!!", Utf8.ofString "tag:yaml.org,2002:")]

def isKnownVersion (major minor : Nat) : Bool := major == 1 && (minor == 1 || minor == 2)

/-- The directives before a document: whether there are any. There is one version at most, and one
text for each handle. -/
def directives : Nat → Bool → Bool → List (String × Utf8.Bytes) → Read Bool
  | 0, _, _, _ => fail
  | fuel + 1, any, versioned, handles => do
    match ← peek with
    | some (.versionDirective major minor) =>
      if versioned || !isKnownVersion major minor then fail
      else do
        skip
        directives fuel true true handles
    | some (.tagDirective handle text) =>
      if (handles.lookup handle).isSome then fail
      else do
        skip
        directives fuel true versioned ((handle, text) :: handles)
    | _ => fun r => some (any, { r with handles := handles ++ commonHandles })

/-- The content of a document that has been started by a line of its own. -/
def content (fuel : Nat) : Read Node := do
  match ← peek with
  | none => emptyNode
  | some t =>
    match t with
    | .documentStart => emptyNode
    | .documentEnd => emptyNode
    | .versionDirective _ _ => emptyNode
    | .tagDirective _ _ => emptyNode
    | _ => node fuel true false

def ends : Nat → Read Unit
  | 0 => pure ()
  | fuel + 1 => do
    if (← peek) = some .documentEnd then do
      skip
      ends fuel
    else pure ()

/-- The only document there is, if there is one. -/
def document (fuel : Nat) : Read (Option Node) := do
  let directed ← directives fuel false false []
  let n ←
    match ← peek with
    | some .documentStart => do
      skip
      let n ← content fuel
      pure (some n)
    | none => if directed then fail else pure none
    | some _ =>
      if directed then fail
      else do
        let n ← node fuel true false
        pure (some n)
  ends fuel
  match ← peek with
  | none => pure n
  | some _ => fail

end Read

namespace Document

/-- The nodes by the numbers of their names. -/
def namedNodes (starts : List (Nat × Nat)) (nodes : List (Nat × Node)) : List (Nat × Node) :=
  starts.filterMap fun (number, start) => (nodes.lookup start).map (number, ·)

def ofTokens? (tokens : List Token) : Option Document :=
  let fuel := 4 * tokens.length + 8
  (Read.document fuel ⟨tokens, [], [], [], [], 0⟩).map fun (root, r) =>
    ⟨root, namedNodes r.starts r.nodes, r.place⟩

/-- The document that a text holds. A text that is malformed or holds several is an error. -/
def read? (text : String) : Option Document := (tokens? text).bind ofTokens?

end Document

end SchemaPipeline.Yaml
