import SchemaPipeline.Json.Value

/-!
# Tables of documents

Documents under their names, each name once. The table keeps the order in which names were first
used, but nothing that is looked up depends on it.
-/

namespace SchemaPipeline

structure Documents where
  entries : List (String × Value)
deriving Repr, Inhabited

namespace Documents

def empty : Documents := ⟨[]⟩

def find? (d : Documents) (name : String) : Option Value := Members.find? d.entries name

def contains (d : Documents) (name : String) : Bool := (d.find? name).isSome

def size (d : Documents) : Nat := d.entries.length

def names (d : Documents) : List String := d.entries.map Prod.fst

/-- The table with a document under a name, in the place of the one before. -/
def insert (d : Documents) (name : String) (document : Value) : Documents :=
  ⟨Members.insert d.entries name document⟩

/-- The table with a document under a name, unless the name is taken. -/
def insertNew (d : Documents) (name : String) (document : Value) : Documents :=
  if d.contains name then d else ⟨d.entries ++ [(name, document)]⟩

def insertAllNew (d : Documents) (entries : List (String × Value)) : Documents :=
  entries.foldl (fun d e => d.insertNew e.1 e.2) d

def ofList (entries : List (String × Value)) : Documents :=
  entries.foldl (fun d e => d.insert e.1 e.2) empty

theorem find?_insert_self (d : Documents) (name : String) (v : Value) :
    (d.insert name v).find? name = some v :=
  Members.find?_insert_self d.entries name v

theorem find?_insert_of_ne (d : Documents) {name other : String} (v : Value) (h : name ≠ other) :
    (d.insert name v).find? other = d.find? other :=
  Members.find?_insert_of_ne d.entries v h

end Documents

end SchemaPipeline
