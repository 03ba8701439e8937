import SubtreePartition.Text.Basic

namespace SubtreePartition

/-- One line of a sorted store, reduced to what splitting needs: where the record sits in the tree,
and its category, empty if it has none. -/
structure Record where
  path : Text
  category : Text := []
  deriving DecidableEq, Repr

namespace Record

def segmentsOf (path : Text) : List Text :=
  (Text.pieces Text.slash path).filter (· ≠ [])

def segments (r : Record) : List Text :=
  segmentsOf r.path

def depth (r : Record) : Nat :=
  r.segments.length

end Record

end SubtreePartition
