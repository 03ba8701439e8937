import SubtreePartition.Category.Boundaries
import SubtreePartition.Datum.Check

namespace SubtreePartition

open Datum

def Declaration.check (members : Members) : Checked Declaration :=
  Checked.apply
    (Checked.apply (.ok Declaration.mk) (withDefault "supertypes" [] (listOf text) members))
    (withDefault "auxiliary" false boolean members)

def Declarations.check (members : Members) : Checked Declarations :=
  withDefault "categories" [] (dictionaryOf (model Declaration.check)) members

def IndexDefinition.check (members : Members) : Checked IndexDefinition :=
  Checked.apply
    (Checked.apply
      (Checked.apply (.ok IndexDefinition.mk) (required "path" text members))
      (withDefault "aggregates" [] (dictionaryOf (listOf text)) members))
    (withDefault "rules" [] (listOf (model (required "base_category" text))) members)

def IndexDefinition.checkAll (members : Members) : Checked (List IndexDefinition) :=
  withDefault "indexes" [] (listOf (model IndexDefinition.check)) members

end SubtreePartition
