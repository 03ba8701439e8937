import SubtreePartition.FilePath

namespace SubtreePartition

structure Command.SplitRequest where
  source : FilePath
  workDir : Option FilePath := none
  partitions : Int
  minSize : Int
  threshold : Option Int := none
  compressed : Bool := true
  deleteSource : Bool := false
  hierarchy : Option FilePath := none
  indexes : Option FilePath := none
  lenient : Bool := false
  verbose : Bool := false
  deriving DecidableEq, Repr

inductive Command where
  | split (request : Command.SplitRequest)
  | categories (hierarchy indexes : FilePath)
  | version
  | help
  deriving DecidableEq, Repr

end SubtreePartition
