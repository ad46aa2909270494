/-!
# Pieces of a text

Cutting a list of characters at separators. Every cut loses the separators and nothing else.
-/

namespace SchemaPipeline.Text

/-- The pieces between the characters that separate, at least one. -/
def splitOn (separates : Char → Bool) : List Char → List (List Char)
  | [] => [[]]
  | c :: rest =>
    match splitOn separates rest with
    | [] => [[]]
    | piece :: pieces =>
      if separates c then [] :: piece :: pieces else (c :: piece) :: pieces

/-- The text before the first character that stops, and the text from that character on. -/
def spanUntil (stops : Char → Bool) (cs : List Char) : List Char × List Char :=
  (cs.takeWhile (!stops ·), cs.dropWhile (!stops ·))

/-- The text before and after the last occurrence of a character. -/
def splitLast (c : Char) (cs : List Char) : Option (List Char × List Char) :=
  match cs.reverse.dropWhile (· != c) with
  | [] => none
  | _ :: before => some (before.reverse, (cs.reverse.takeWhile (· != c)).reverse)

/-- The text before and after the first occurrence of a character. -/
def splitFirst (c : Char) : List Char → Option (List Char × List Char)
  | [] => none
  | d :: rest =>
    if d = c then some ([], rest)
    else (splitFirst c rest).map fun (before, after) => (d :: before, after)

/-- A text without the characters of a class at both ends. -/
def trim (drops : Char → Bool) (cs : List Char) : List Char :=
  ((cs.dropWhile drops).reverse.dropWhile drops).reverse

def lowerAscii (cs : List Char) : List Char := cs.map Char.toLower

end SchemaPipeline.Text
