import SubtreePartition.Category.Set

namespace SubtreePartition

/-- A category with the categories directly below it: primary ones name it as a supertype, and so do
auxiliary ones, which are only ever added to records. -/
structure Category where
  name : Text
  primary : CategorySet := .empty
  auxiliary : CategorySet := .empty
  deriving DecidableEq, Repr

namespace Category

def subtypes (c : Category) : List Text :=
  c.primary.names ++ c.auxiliary.names

end Category

structure Declaration where
  supertypes : List Text := []
  auxiliary : Bool := false
  deriving DecidableEq, Repr

abbrev Declarations := List (Text × Declaration)

namespace Declarations

def declares (ds : Declarations) (name : Text) : Bool :=
  ds.any fun d => d.1 = name

def subtypesOf (ds : Declarations) (auxiliary : Bool) (name : Text) : CategorySet :=
  .ofList ((ds.filter fun d =>
    d.2.auxiliary = auxiliary && d.2.supertypes.contains name).map Prod.fst)

def undeclared (ds : Declarations) : List (Text × Text) :=
  ds.flatMap fun d => (d.2.supertypes.filter fun s => !ds.declares s).map fun s => (s, d.1)

end Declarations

structure Hierarchy where
  entries : List Category := []
  deriving DecidableEq, Repr

namespace Hierarchy

def lookup (h : Hierarchy) (name : Text) : Option Category :=
  h.entries.find? fun c => c.name = name

def put (c : Category) : List Category → List Category
  | [] => [c]
  | d :: rest => if d.name = c.name then c :: rest else d :: put c rest

def register (h : Hierarchy) (c : Category) : Hierarchy :=
  ⟨put c h.entries⟩

def registered (h : Hierarchy) : CategorySet :=
  .ofList (h.entries.map Category.name)

def ofDeclarations (ds : Declarations) : Hierarchy :=
  ⟨ds.map fun d =>
    { name := d.1
      primary := ds.subtypesOf false d.1
      auxiliary := ds.subtypesOf true d.1 }⟩

theorem find?_put (c : Category) (name : Text) (cs : List Category) :
    (put c cs).find? (fun d => d.name = name) =
      if c.name = name then some c else cs.find? (fun d => d.name = name) := by
  induction cs with
  | nil => simp [put, List.find?_cons]; split <;> simp_all
  | cons d rest ih =>
      unfold put
      by_cases h : d.name = c.name
      · rw [if_pos h]
        by_cases hc : c.name = name
        · simp [hc]
        · have hd : d.name ≠ name := by rw [h]; exact hc
          simp [hc, hd]
      · rw [if_neg h, List.find?_cons, List.find?_cons, ih]
        by_cases hd : d.name = name
        · have hc : c.name ≠ name := fun e => h (hd.trans e.symm)
          simp [hd, hc]
        · simp [hd]

theorem lookup_register (h : Hierarchy) (c : Category) (name : Text) :
    (h.register c).lookup name = if c.name = name then some c else h.lookup name :=
  find?_put c name h.entries

end Hierarchy

end SubtreePartition
