import SubtreePartition.Yaml.Cursor

namespace SubtreePartition.Yaml

inductive TagForm where
  | whole (name : Text)
  | short (handle suffix : Text)
  deriving DecidableEq, Repr

inductive Token where
  | version (major : Nat)
  | tagHandle (handle stem : Text)
  | otherDirective
  | documentStart
  | documentEnd
  | sequenceStart
  | mappingStart
  | blockEnd
  | flowSequenceStart
  | flowSequenceEnd
  | flowMappingStart
  | flowMappingEnd
  | entry
  | separator
  | key
  | value
  | reference (name : Text)
  | anchor (name : Text)
  | tag (form : TagForm)
  | scalar (text : Text) (plain : Bool)
  | streamEnd
  | fault (f : Fault)
  deriving DecidableEq, Repr

end SubtreePartition.Yaml
