import SubtreePartition.Yaml.Tag

namespace SubtreePartition.Yaml

inductive Content where
  | scalar (t : Text)
  | sequence (items : List Nat)
  | mapping (members : List (Nat × Nat))
  deriving DecidableEq, Repr

structure Node where
  tag : Tag
  content : Content
  deriving DecidableEq, Repr

/-- The parts of a document by number. An alias is one more mention of a part, so that a part can be
inside itself. -/
abbrev Graph := Array Node

namespace Node

def empty : Node := ⟨.null, .scalar []⟩

end Node

end SubtreePartition.Yaml
