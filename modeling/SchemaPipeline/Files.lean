import SchemaPipeline.Text.Pieces

/-!
# Files

The texts of the files that can be read, by path. A path is cut into its steps at the slashes, and
steps that stay in place do not count.
-/

namespace SchemaPipeline

namespace Path

def isSlash (c : Char) : Bool := c == '/'

/-- The steps of a path that lead somewhere. -/
def steps (path : String) : List String :=
  ((Text.splitOn isSlash path.toList).map String.ofList).filter fun s => !s.isEmpty && s != "."

/-- The name of the file that a path leads to. -/
def fileName? (path : String) : Option String :=
  match (steps path).getLast? with
  | some ".." => none
  | last => last

/-- What follows the last point in the name of the file. A name that has its only point at the start
has no extension. -/
def extension? (path : String) : Option String := do
  let name ← fileName? path
  let (stem, extension) ← Text.splitLast '.' name.toList
  if stem.isEmpty then none else some (String.ofList extension)

def isAbsolute (path : String) : Bool := path.toList.head? == some '/'

/-- Whether a path can only lead to a directory. -/
def namesDirectory (path : String) : Bool :=
  match (Text.splitOn isSlash path.toList).getLast? with
  | none => true
  | some last => last == [] || last == ['.'] || last == ['.', '.']

end Path

/-- The text of the file at a path, unless there is none that can be read. -/
abbrev Files := String → Option String

namespace Files

/-- The files of a directory, under paths that start there. -/
def ofList (files : List (String × String)) : Files := fun path =>
  if Path.isAbsolute path || Path.namesDirectory path then none
  else (files.find? fun f => Path.steps f.1 == Path.steps path).map (·.2)

end Files

end SchemaPipeline
