import SubtreePartition.Text.Basic

namespace SubtreePartition.Yaml

inductive Tag where
  | null
  | bool
  | integer
  | real
  | binary
  | timestamp
  | text
  | sequence
  | mapping
  | set
  | orderedMapping
  | pairs
  | merge
  | value
  | unknown (name : Text)
  deriving DecidableEq, Repr

namespace Tag

def standardStem : Text := "tag:yaml.org,2002:"

def standard : List (Text × Tag) :=
  [("null", .null), ("bool", .bool), ("int", .integer), ("float", .real), ("binary", .binary),
    ("timestamp", .timestamp), ("str", .text), ("seq", .sequence), ("map", .mapping),
    ("set", .set), ("omap", .orderedMapping), ("pairs", .pairs), ("merge", .merge),
    ("value", .value)]

def ofName (name : Text) : Tag :=
  ((standard.find? fun t => name = standardStem ++ t.1).map Prod.snd).getD (.unknown name)

def nonSpecific : Text := "!"

end Tag

end SubtreePartition.Yaml
