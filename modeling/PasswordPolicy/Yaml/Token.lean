import PasswordPolicy.Yaml.Tag

/-!
# Tokens

The parts that a document is made of. Blocks have no signs of their own for where they start and
end; these tokens stand for changes of the indentation.
-/

namespace PasswordPolicy.Yaml

/-- What is said about the tag of a node in front of it. -/
inductive WrittenTag
  /-- The node has a tag, but not which one. -/
  | unspecific
  | specific (tag : Tag)
deriving DecidableEq, Repr

/-- A part of a document. -/
inductive Token
  /-- A line that tells about the document; the version may be told once. -/
  | directive (tellsVersion : Bool)
  | documentStart
  | documentEnd
  | blockSequenceStart
  | blockMappingStart
  | blockEnd
  | blockEntry
  | flowSequenceStart
  | flowSequenceEnd
  | flowMappingStart
  | flowMappingEnd
  | flowEntry
  /-- The start of a key. -/
  | key
  /-- The start of the value of a key. -/
  | value
  | anchor (name : String)
  | alias (name : String)
  | tag (written : WrittenTag)
  | scalar (isPlain : Bool) (text : String)
deriving DecidableEq, Repr

end PasswordPolicy.Yaml
