import SchemaPipeline.Json.Reader

/-!
# Passing over JSON values

A value that nobody asks for has to be well-formed, but what it denotes does not matter: its numbers
may be too large, its strings may hold halves of characters, and it may be nested to any depth.
-/

namespace SchemaPipeline.Json

/-- Passes over something. -/
abbrev Skimmer : Type := List Char → Option (List Char)

def skimDigits : Skimmer := fun cs =>
  match takeDigits cs with
  | ([], _) => none
  | (_, rest) => some rest

def skimExponent (cs : List Char) : Option (List Char) :=
  match cs with
  | '+' :: rest => skimDigits rest
  | '-' :: rest => skimDigits rest
  | _ => skimDigits cs

def skimScale (cs : List Char) : Option (List Char) :=
  match cs with
  | 'e' :: rest => skimExponent rest
  | 'E' :: rest => skimExponent rest
  | _ => some cs

/-- A number without its sign. -/
def skimMagnitude : Skimmer := fun cs =>
  match takeDigits cs with
  | ([], _) => none
  | ('0' :: _ :: _, _) => none
  | (_, '.' :: rest) => (skimDigits rest).bind skimScale
  | (_, rest) => skimScale rest

/-- A string after its opening quote. -/
def skimString : Skimmer
  | '"' :: rest => some rest
  | '\\' :: 'u' :: a :: b :: c :: d :: rest =>
    if (hexUnit a b c d).isSome then skimString rest else none
  | '\\' :: e :: rest => if (simpleEscape e).isSome then skimString rest else none
  | c :: rest => if c.toNat < 0x20 ∨ c = '\\' then none else skimString rest
  | [] => none

def skimScalar (cs : List Char) : Option (List Char) :=
  match cs with
  | '"' :: rest => skimString rest
  | '-' :: rest => skimMagnitude rest
  | 'n' :: rest => stripWord ['u', 'l', 'l'] rest
  | 't' :: rest => stripWord ['r', 'u', 'e'] rest
  | 'f' :: rest => stripWord ['a', 'l', 's', 'e'] rest
  | _ => skimMagnitude cs

def skimKey : Reader Unit := fun cs => (skimString cs).map ((), ·)

/-- A value with at most so many containers around a scalar. -/
def skimNested : Nat → Reader Unit
  | 0, _ => none
  | depth + 1, '[' :: rest => (readArray (skimNested depth) rest).map fun (_, rest) => ((), rest)
  | depth + 1, '\x7b' :: rest =>
    (readObject skimKey (fun _ => skimNested depth) rest).map fun (_, rest) => ((), rest)
  | _, cs => (skimScalar cs).map ((), ·)

/-- A value of any depth, which its length bounds. -/
def skimValue : Reader Unit := fun cs => skimNested (cs.length + 1) cs

end SchemaPipeline.Json
