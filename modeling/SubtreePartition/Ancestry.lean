import SubtreePartition.Record.Basic

namespace SubtreePartition

inductive OrderMode where
  | strict
  | lenient
  deriving DecidableEq, Repr

structure Ancestor where
  segment : Text
  category : Text
  deriving DecidableEq, Repr

structure Unsorted where
  path : Text
  expectedParent : Text
  deriving DecidableEq, Repr

namespace Unsorted

def message (u : Unsorted) : Text :=
  Text.join ["Record ", u.path,
    " does not follow its ancestors in sorted order (current ancestor chain ends at ",
    u.expectedParent, ")"]

end Unsorted

abbrev Ancestry := List Ancestor

namespace Ancestry

def segments (a : Ancestry) : List Text :=
  a.map Ancestor.segment

def categories (a : Ancestry) : List Text :=
  a.map Ancestor.category

def path (a : Ancestry) : Text :=
  Text.slash :: Text.intercalate [Text.slash] a.segments

/-- Moves the chain to a record. The chain is first cut back to the place of the record's parent; a
record that is then refused leaves it there. -/
def enter (mode : OrderMode) (a : Ancestry) (r : Record) : Ancestry × Option Unsorted :=
  match r.segments.getLast? with
  | none => ([], none)
  | some last =>
      let kept := a.take (r.depth - 1)
      if mode = .strict ∧ r.segments.dropLast ≠ Ancestry.segments kept then
        (kept, some ⟨r.path, Ancestry.path kept⟩)
      else
        (kept ++ [⟨last, r.category⟩], none)

end Ancestry

end SubtreePartition
