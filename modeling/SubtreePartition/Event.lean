import SubtreePartition.Category.Set
import SubtreePartition.FilePath
import SubtreePartition.Size

namespace SubtreePartition

inductive Level where
  | debug
  | info
  | error
  deriving DecidableEq, Repr

namespace Level

def text : Level → Text
  | .debug => "DEBUG"
  | .info => "INFO"
  | .error => "ERROR"

end Level

inductive SkipReason where
  | notNecessary
  | baseCategory (category : Text)
  | noDirectory
  deriving DecidableEq, Repr

namespace SkipReason

def text : SkipReason → Text
  | .notNecessary => "split is not necessary"
  | .baseCategory c => Text.join ["protected categories contain ", c]
  | .noDirectory => "no split directory"

end SkipReason

inductive Event where
  | undeclaredSupertype (supertype category : Text)
  | unknownCategory (name : Text)
  | protectedResolved (categories : CategorySet)
  | hierarchyLoaded (count : Nat) (file : FilePath)
  | indexesLoaded (count : Nat) (file : FilePath)
  | sourceSize (size : Nat)
  | splitPlanned (threshold partitions : Nat)
  | protectedCount (count : Nat)
  | directoryFailed (directory : FilePath) (cause : Text)
  | skipped (source : FilePath) (reason : SkipReason)
  | partitionCreated (file : FilePath) (size : Nat)
  | cutFound (line : Nat) (file : FilePath)
  | lineCount (count : Nat)
  | sourceDeleted (source : FilePath)
  deriving DecidableEq, Repr

namespace Event

def level : Event → Level
  | .undeclaredSupertype .. | .unknownCategory _ | .protectedResolved _ => .debug
  | .hierarchyLoaded .. | .indexesLoaded .. => .debug
  | .directoryFailed .. => .error
  | _ => .info

def message : Event → Text
  | .undeclaredSupertype s c => Text.join ["Undeclared supertype ", s, " of ", c]
  | .unknownCategory c => Text.join ["Skipping unknown category: ", c]
  | .protectedResolved cs => Text.join ["Protected categories: ", cs.text]
  | .hierarchyLoaded n file =>
      Text.join ["Loaded ", Text.ofNat n, " categories from ", file.text]
  | .indexesLoaded n file =>
      Text.join ["Loaded ", Text.ofNat n, " index definitions from ", file.text]
  | .sourceSize n => Text.join ["Original flat file size: ", Size.display n]
  | .splitPlanned threshold partitions =>
      Text.join ["Split threshold: ", Size.display threshold, ", partition count: ",
        Text.ofNat partitions]
  | .protectedCount n => Text.join ["Protected categories: ", Text.ofNat n]
  | .directoryFailed directory cause =>
      Text.join ["Failed to create split directory ", directory.text, ": ", cause]
  | .skipped source reason =>
      Text.join ["Skipping split of ", source.text, ": ", reason.text]
  | .partitionCreated file size =>
      Text.join ["Created split flat file ", file.text, " with size ", Size.display size]
  | .cutFound line file =>
      Text.join ["Split position found at line ", Text.ofNat line, ", creating new split file ",
        file.text]
  | .lineCount n => Text.join ["Split total line count: ", Text.ofNat n]
  | .sourceDeleted source => Text.join ["Deleted original flat file ", source.text]

end Event

abbrev Log := List Event

namespace Log

def shown (verbose : Bool) (log : Log) : Log :=
  log.filter fun e => verbose || e.level ≠ .debug

end Log

end SubtreePartition
