import SubtreePartition.Datum.Calendar
import SubtreePartition.Number.Binary64

namespace SubtreePartition

inductive Scalar where
  | null
  | bool (b : Bool)
  | integer (n : Int)
  | real (x : Binary64)
  | text (t : Text)
  | octets (bytes : Bytes)
  | day (d : Day)
  | moment (m : Moment)
  deriving DecidableEq, Repr

/-- What a document or a request says before it is checked against a schema. The keys of a mapping
are pairwise different, apart from keys that are no numbers. -/
inductive Datum where
  | scalar (s : Scalar)
  | list (items : List Datum)
  | mapping (members : List (Scalar × Datum))
  deriving Repr, Inhabited

namespace Scalar

def units? : Scalar → Option Int
  | .bool b => some (if b then Binary64.one else 0)
  | .integer n => some (n * Binary64.one)
  | .real (.finite negative units) => some (Text.signed negative units)
  | _ => none

/-- Whether two keys are one: numbers are compared by value, whatever their kind. -/
def same (a b : Scalar) : Bool :=
  match a.units?, b.units? with
  | some x, some y => x = y
  | none, none =>
      match a, b with
      | .moment m, .moment n => m.same n
      | _, _ => a = b
  | _, _ => false

def isVoid : Scalar → Bool
  | .null => true
  | .text t => t.isEmpty
  | .octets b => b.isEmpty
  | s => s.units? = some 0

end Scalar

namespace Datum

def ofText (t : Text) : Datum := .scalar (.text t)

def isVoid : Datum → Bool
  | .scalar s => s.isVoid
  | .list items => items.isEmpty
  | .mapping members => members.isEmpty

def assignBy {κ α : Type} (same : κ → κ → Bool) (key : κ) (value : α) :
    List (κ × α) → List (κ × α)
  | [] => [(key, value)]
  | m :: rest =>
      if same m.1 key then (m.1, value) :: rest else m :: assignBy same key value rest

def assign {α : Type} (key : Scalar) (value : α) (members : List (Scalar × α)) :
    List (Scalar × α) :=
  assignBy Scalar.same key value members

def member? (name : Text) (members : List (Scalar × Datum)) : Option Datum :=
  (members.find? fun m => m.1 = .text name).map Prod.snd

end Datum

end SubtreePartition
