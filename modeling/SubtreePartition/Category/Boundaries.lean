import SubtreePartition.Category.Closure
import SubtreePartition.Event

namespace SubtreePartition

structure IndexDefinition where
  path : Text
  aggregates : List (Text × List Text) := []
  rules : List Text := []
  deriving DecidableEq, Repr

namespace IndexDefinition

def seeds (d : IndexDefinition) : List Text :=
  d.aggregates.map Prod.fst ++ d.rules

end IndexDefinition

def seedCategories (definitions : List IndexDefinition) : List Text :=
  definitions.flatMap IndexDefinition.seeds

/-- Derives the protected categories from index definitions. They are computed over the hierarchy
as it is at the first request, and kept. -/
structure Resolver where
  definitions : List IndexDefinition
  hierarchy : Hierarchy
  resolved : Option CategorySet := none
  deriving DecidableEq, Repr

namespace Resolver

def closure (r : Resolver) (seeds : List Text) : CategorySet × Log :=
  let reached := r.hierarchy.closure seeds
  (.ofList reached.members, reached.unknown.map Event.unknownCategory)

def resolve (r : Resolver) : CategorySet × Log × Resolver :=
  match r.resolved with
  | some cs => (cs, [], r)
  | none =>
      let (cs, log) := r.closure (seedCategories r.definitions)
      (cs, log ++ [.protectedResolved cs], { r with resolved := some cs })

def register (r : Resolver) (c : Category) : Resolver :=
  { r with hierarchy := r.hierarchy.register c }

end Resolver

inductive Boundaries where
  | fixed (categories : CategorySet)
  | derived (resolver : Resolver)
  deriving DecidableEq, Repr

namespace Boundaries

def resolve : Boundaries → CategorySet × Log × Boundaries
  | .fixed cs => (cs, [], .fixed cs)
  | .derived r =>
      let (cs, log, r) := r.resolve
      (cs, log, .derived r)

end Boundaries

end SubtreePartition
