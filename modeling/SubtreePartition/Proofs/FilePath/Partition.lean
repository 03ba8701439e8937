import SubtreePartition.Proofs.FilePath.PartitionName

namespace SubtreePartition.FilePath

variable {i j : Int} {a b workDir : FilePath}

theorem name_child (p : FilePath) (part : Text) : (p.child part).name = part := by
  simp [child, name]

theorem partition_eq_iff :
    workDir.partition i a = workDir.partition j b ↔ i = j ∧ a.name = b.name := by
  simp [partition, child, partitionName_eq_iff]

theorem partition_ne (workDir : FilePath) (i : Int) (a : FilePath) :
    workDir.partition i a ≠ a := by
  intro h
  have hname : (workDir.partition i a).name = partitionName i a.name := name_child _ _
  rw [h] at hname
  exact partitionName_ne_self i a.name hname.symm

/-- The partitions in a directory are told apart by their numbers and by the names of their sources,
and none of them is its own source. -/
structure KeepsApart (workDir : FilePath) : Prop where
  same (i j : Int) (a b : FilePath) :
    workDir.partition i a = workDir.partition j b ↔ i = j ∧ a.name = b.name
  source (i : Int) (a : FilePath) : workDir.partition i a ≠ a

theorem keepsApart_partition (workDir : FilePath) : KeepsApart workDir where
  same _ _ _ _ := partition_eq_iff
  source := partition_ne workDir

example : (parse "out").partition 1 (parse "2-x") ≠ (parse "out").partition 12 (parse "x") := by
  decide

end SubtreePartition.FilePath
