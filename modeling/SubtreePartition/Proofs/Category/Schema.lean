import Mathlib.Data.List.Forall2
import SubtreePartition.Datum.Check
import SubtreePartition.Library
import SubtreePartition.Proofs.Text.Strict

namespace SubtreePartition

namespace Library

variable {α : Type} {L : Library}

def IsText (v : L.Value) (t : Text) : Prop :=
  L.text? v = some t

def IsTruth (v : L.Value) (b : Bool) : Prop :=
  L.truth? v = some b

def IsListOf (P : L.Value → α → Prop) (v : L.Value) (as : List α) : Prop :=
  ∃ items, L.items? v = some items ∧ List.Forall₂ P items as

def IsDictionaryOf (P : L.Value → α → Prop) (v : L.Value) (ms : List (Text × α)) : Prop :=
  ∃ members named, L.members? v = some members ∧
    List.Forall₂ (fun m n => IsText m.1 n.1 ∧ P m.2 n.2) members named ∧
    ms = named.foldl (fun done m => Datum.put m done) []

def IsModelOf (P : L.Fields → α → Prop) (v : L.Value) (a : α) : Prop :=
  ∃ members, L.members? v = some members ∧ P (L.named members) a

def HasField (name : Text) (P : L.Value → α → Prop) (fields : L.Fields) (a : α) : Prop :=
  ∃ v, fields.lookup name = some v ∧ P v a

def HasFieldOr (name : Text) (dflt : α) (P : L.Value → α → Prop) (fields : L.Fields) (a : α) :
    Prop :=
  HasField name P fields a ∨ fields.lookup name = none ∧ a = dflt

variable {name : Text} {P : L.Value → α → Prop} {fields : L.Fields} {v : L.Value} {a dflt : α}

theorem hasField_iff (h : fields.lookup name = some v) : HasField name P fields a ↔ P v a := by
  simp [HasField, h]

theorem not_hasField (h : fields.lookup name = none) : ¬ HasField name P fields a := by
  simp [HasField, h]

theorem hasFieldOr_iff (h : fields.lookup name = some v) :
    HasFieldOr name dflt P fields a ↔ P v a := by
  simp [HasFieldOr, hasField_iff h, h]

theorem hasFieldOr_default (h : fields.lookup name = none) :
    HasFieldOr name dflt P fields a ↔ a = dflt := by
  simp [HasFieldOr, not_hasField h, h]

end Library

open Library

variable {L : Library}

structure Declaration.Fits (fields : L.Fields) (d : Declaration) : Prop where
  supertypes : HasFieldOr "supertypes" [] (IsListOf IsText) fields d.supertypes
  auxiliary : HasFieldOr "auxiliary" false IsTruth fields d.auxiliary

def Declarations.Fit : L.Fields → Declarations → Prop :=
  HasFieldOr "categories" [] (IsDictionaryOf (IsModelOf Declaration.Fits))

structure IndexDefinition.Fits (fields : L.Fields) (i : IndexDefinition) : Prop where
  path : HasField "path" IsText fields i.path
  aggregates :
    HasFieldOr "aggregates" [] (IsDictionaryOf (IsListOf IsText)) fields i.aggregates
  rules :
    HasFieldOr "rules" [] (IsListOf (IsModelOf (HasField "base_category" IsText))) fields i.rules

def IndexDefinition.FitAll : L.Fields → List IndexDefinition → Prop :=
  HasFieldOr "indexes" [] (IsListOf (IsModelOf IndexDefinition.Fits))

namespace Library

/-- A check passes just what a relation describes, and refuses all else as invalid. -/
structure Validates (L : Library) (check : L.Fields → Except L.Error α)
    (P : L.Fields → α → Prop) : Prop where
  accepts {fields : L.Fields} {a : α} : check fields = .ok a ↔ P fields a
  refuses {fields : L.Fields} {e : L.Error} : check fields = .error e → L.kind e = .validation

def firstChunk : Nat := 8192

/-- What the library is documented to do. -/
structure IsDocumented (L : Library) : Prop where
  undecodable {content : Bytes} : ¬ Utf8.IsText content → content.length < firstChunk →
    ∃ e, L.safeLoad content = .error e ∧ L.kind e = .value
  hierarchy : L.Validates L.hierarchy Declarations.Fit
  indexes : L.Validates L.indexes IndexDefinition.FitAll

end Library

end SubtreePartition
