import SubtreePartition.Category.Hierarchy

namespace SubtreePartition

structure Closure where
  members : List Text := []
  unknown : List Text := []
  deriving DecidableEq, Repr

namespace Closure

def mentions (seen : Closure) (name : Text) : Bool :=
  seen.members.contains name || seen.unknown.contains name

def addMember (seen : Closure) (name : Text) : Closure :=
  { seen with members := name :: seen.members }

def addUnknown (seen : Closure) (name : Text) : Closure :=
  { seen with unknown := name :: seen.unknown }

def without (name : Text) (cs : List Category) : List Category :=
  cs.filter fun d => d.name ≠ name

theorem length_without_lt {c : Category} {cs : List Category} {name : Text}
    (h : cs.find? (fun d => d.name = name) = some c) : (without name cs).length < cs.length := by
  refine List.length_filter_lt_length_iff_exists.mpr ⟨c, List.mem_of_find?_eq_some h, ?_⟩
  have := List.find?_some h
  simpa using this

/-- Visits the pending names. `unvisited` holds the registered categories not met yet; a category
leaves it when it is met, so each is expanded once. -/
def explore (unvisited : List Category) (seen : Closure) : List Text → Closure
  | [] => seen
  | name :: pending =>
      match _h : unvisited.find? (fun c => c.name = name) with
      | some c =>
          explore (without name unvisited) (seen.addMember name)
            (c.subtypes ++ pending)
      | none =>
          if seen.mentions name then explore unvisited seen pending
          else explore unvisited (seen.addUnknown name) pending
termination_by pending => (unvisited.length, pending.length)
decreasing_by
  · exact Prod.Lex.left _ _ (length_without_lt ‹_›)
  · exact Prod.Lex.right _ (by simp)
  · exact Prod.Lex.right _ (by simp)

end Closure

def Hierarchy.closure (h : Hierarchy) (seeds : List Text) : Closure :=
  Closure.explore h.entries {} seeds

end SubtreePartition
