import SubtreePartition.Category.Boundaries

namespace SubtreePartition

/-- The kinds of errors that are told apart. Those of the first kind are raised here, all others come
from outside. -/
inductive ErrorKind where
  | own
  | system
  | document
  | validation
  | mismatch
  | value
  | ended
  | other
  deriving DecidableEq, Repr

/-- What is used and not defined here: a reader of documents, and checks of what they say against the
declared fields. -/
structure Library where
  Error : Type
  Value : Type
  kind : Error → ErrorKind
  message : Error → Text
  /-- The value that the octets of a file write; null if they write nothing. -/
  safeLoad : Bytes → Except Error Value
  isVoid : Value → Bool
  members? : Value → Option (List (Value × Value))
  items? : Value → Option (List Value)
  /-- The text that a value is. -/
  name? : Value → Option Text
  /-- What a value is taken for where a text or a truth value is asked for. -/
  text? : Value → Option Text
  truth? : Value → Option Bool
  hierarchy : List (Text × Value) → Except Error Declarations
  indexes : List (Text × Value) → Except Error (List IndexDefinition)

namespace Library

abbrev Fields (L : Library) := List (Text × L.Value)

def named (L : Library) (members : List (L.Value × L.Value)) : L.Fields :=
  members.filterMap fun m => (L.name? m.1).map (·, m.2)

def fields? (L : Library) (v : L.Value) : Option L.Fields :=
  if L.isVoid v then some []
  else
    match L.members? v with
    | some members =>
        if members.all fun m => (L.name? m.1).isSome then some (L.named members) else none
    | none => none

end Library

end SubtreePartition
