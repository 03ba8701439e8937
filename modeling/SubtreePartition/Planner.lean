import SubtreePartition.Category.Set

namespace SubtreePartition

/-- The rule for where a new partition may start: not before the current one is past `threshold`,
never more than `maxPartitions` of them, and never inside the subtree of a protected category. -/
structure Planner where
  protectedSet : CategorySet
  threshold : Int
  maxPartitions : Int
  deriving DecidableEq, Repr

namespace Planner

/-- No ancestor is protected; the last of the categories is the record's own and does not count. -/
def legal (p : Planner) (ancestors : List Text) : Bool :=
  !ancestors.dropLast.any p.protectedSet.contains

def due (p : Planner) (size index : Int) : Bool :=
  p.threshold < size && index < p.maxPartitions

def cut (p : Planner) (size index : Int) (ancestors : List Text) : Bool :=
  p.due size index && p.legal ancestors

theorem legal_iff {p : Planner} {ancestors : List Text} :
    p.legal ancestors = true ↔ ∀ c ∈ ancestors.dropLast, p.protectedSet.contains c = false := by
  simp [legal]

theorem due_iff {p : Planner} {size index : Int} :
    p.due size index = true ↔ p.threshold < size ∧ index < p.maxPartitions := by
  simp [due]

theorem cut_iff {p : Planner} {size index : Int} {ancestors : List Text} :
    p.cut size index ancestors = true ↔
      p.due size index = true ∧ p.legal ancestors = true := by
  simp [cut]

end Planner

end SubtreePartition
