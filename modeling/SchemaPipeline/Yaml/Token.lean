import SchemaPipeline.Text.Utf8

/-!
# YAML tokens

What a YAML text consists of. Blocks have no brackets in the text, so their starts and ends are
tokens that stand for a change of column, and a key without a question mark gets its `key` token
once the colon after it has been seen.
-/

namespace SchemaPipeline.Yaml

/-- The ways to write a text. -/
inductive ScalarStyle where
  | plain
  | quoted
  | literal
  | folded
deriving DecidableEq, Repr, Inhabited

inductive Token where
  | versionDirective (major minor : Nat)
  | tagDirective (handle : String) (start : Utf8.Bytes)
  | documentStart
  | documentEnd
  | blockSequenceStart
  | blockMappingStart
  | blockEnd
  | flowSequenceStart
  | flowSequenceEnd
  | flowMappingStart
  | flowMappingEnd
  | blockEntry
  | flowEntry
  | key
  | value
  | alias (name : String)
  | anchor (name : String)
  | tag (handle : String) (rest : Utf8.Bytes)
  | scalar (style : ScalarStyle) (text : String)
deriving DecidableEq, Repr

end SchemaPipeline.Yaml
