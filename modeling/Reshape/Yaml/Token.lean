namespace Reshape.Yaml

/-- Whether a scalar was written without quotes and marks. -/
inductive Style where
  | plain
  | marked
  deriving DecidableEq, Inhabited

inductive Token where
  | version (major minor : Nat)
  /-- A handle for tags and the text it stands for. -/
  | handle (name text : String)
  | documentStart
  | documentEnd
  | blockSequenceStart
  | blockMappingStart
  | blockEnd
  | flowSequenceStart
  | flowSequenceEnd
  | flowMappingStart
  | flowMappingEnd
  | blockEntry
  | flowEntry
  | key
  | value
  | alias (name : String)
  | anchor (name : String)
  /-- A tag by a handle and the text behind it; an empty handle for a tag written in full. -/
  | tag (handle text : String)
  | scalar (text : String) (style : Style)
  deriving DecidableEq, Inhabited

end Reshape.Yaml
