import SubtreePartition.Datum.Check
import SubtreePartition.FilePath

namespace SubtreePartition

inductive Compression where
  | none
  | gzip
  deriving DecidableEq, Repr

namespace Compression

def text : Compression → Text
  | .none => "none"
  | .gzip => "gzip"

def ofText (t : Text) : Checked Compression :=
  if t = text .none then .ok .none
  else if t = text .gzip then .ok .gzip
  else Checked.fail .notInSet

def check : Datum → Checked Compression
  | .scalar (.text t) => (Datum.readable t).bind ofText
  | _ => Checked.fail .notInSet

end Compression

structure PartitionCount where
  value : Nat
  one_le : 1 ≤ value
  deriving DecidableEq, Repr

namespace PartitionCount

def default : PartitionCount := ⟨8, by decide⟩

def ofInt? (n : Int) : Option PartitionCount :=
  if h : 1 ≤ n.toNat then some ⟨n.toNat, h⟩ else none

theorem ofInt?_eq_none_iff {n : Int} : ofInt? n = none ↔ n < 1 := by
  unfold ofInt?
  split <;> simp <;> omega

def refusal (n : Int) : Text :=
  Text.join ["Invalid partition count: ", Text.ofInt n,
    ". Expected 1 or more (1 disables splitting)"]

def check (d : Datum) : Checked PartitionCount :=
  d.integer.bind fun n =>
    match ofInt? n with
    | some count => .ok count
    | none => Checked.fail .tooSmall

end PartitionCount

structure Settings where
  workDir : FilePath
  partitionCount : PartitionCount := .default
  minSplitSize : Nat := 10 * 1024 * 1024
  thresholdOverride : Option Nat := none
  compression : Compression := .gzip
  deleteSource : Bool := false
  baseCategory : Option Text := some "nt:base"
  strictOrder : Bool := true
  categoryField : Text := "jcr:primaryType"
  deriving DecidableEq, Repr

namespace Settings

open Datum

def path : Datum → Checked FilePath
  | .scalar (.text t) => .ok (FilePath.parse t)
  | _ => Checked.fail .notPath

def check (members : Members) : Checked Settings :=
  let base : Settings := { workDir := .parse [] }
  let build := Checked.apply (.ok Settings.mk) (required "work_dir" path members)
  let build := Checked.apply build
    (withDefault "partition_count" base.partitionCount PartitionCount.check members)
  let build := Checked.apply build
    (withDefault "min_split_size" base.minSplitSize natural members)
  let build := Checked.apply build
    (withDefault "threshold_override" base.thresholdOverride (optional natural) members)
  let build := Checked.apply build
    (withDefault "compression" base.compression Compression.check members)
  let build := Checked.apply build
    (withDefault "delete_original" base.deleteSource boolean members)
  let build := Checked.apply build
    (withDefault "base_category" base.baseCategory (optional text) members)
  let build := Checked.apply build
    (withDefault "strict_order" base.strictOrder boolean members)
  Checked.apply build
    (withDefault "category_field" base.categoryField text members)

def isInternal (name : Text) : Bool :=
  name.head? = some 95

/-- Settings do not change once they are made; what is none of them can be set, to no effect. -/
def assign (name : Text) (s : Settings) : Checked Settings :=
  if isInternal name then .ok s else .error [{ location := [.field name], kind := .frozen }]

end Settings

end SubtreePartition
