import SubtreePartition.Category.Load
import SubtreePartition.Command.Basic
import SubtreePartition.Settings
import SubtreePartition.Worker

namespace SubtreePartition

namespace Store.SizeFault

def errorKind : SizeFault → ErrorKind
  | .access fault => fault.errorKind
  | .tooShort _ | .noMagic => .own

end Store.SizeFault

namespace Gzip.Fault

/-- Data that break off are met as the end of a file, and data that make no sense as something that
nobody knows. The rest are faults of the file. -/
def errorKind : Fault → ErrorKind
  | .ended => .ended
  | .corrupt => .other
  | _ => .system

end Gzip.Fault

namespace SplitFault

def errorKind : SplitFault → ErrorKind
  | .access _ fault => fault.errorKind
  | .size fault => fault.errorKind
  | .line (.malformed (.malformed _ _)) | .line (.unsorted _) => .own
  | .line (.malformed (.longInteger _)) => .value
  | .stream fault => fault.errorKind
  | .transfer _ _ => .system

end SplitFault

namespace Command

structure Wishes where
  workDir : FilePath
  partitionCount : Int
  minSplitSize : Int
  thresholdOverride : Option Int
  compression : Compression
  deleteSource : Bool
  strictOrder : Bool
  deriving DecidableEq, Repr

inductive Failure (L : Library) where
  | partitionCount (n : Int)
  | settings (e : L.Error)
  | load (failure : LoadFailure L)
  | split (source : FilePath) (fault : SplitFault)
  | printing (e : L.Error)

namespace Failure

variable {L : Library}

def errorKind : Failure L → ErrorKind
  | .partitionCount _ => .value
  | .settings e | .printing e => L.kind e
  | .load failure => failure.errorKind
  | .split _ fault => fault.errorKind

def message : Failure L → Text
  | .partitionCount n => PartitionCount.refusal n
  | .settings e | .printing e => L.message e
  | .load failure => failure.message
  | .split source fault => fault.message source

end Failure

inductive Escape (L : Library) where
  | usage (message : Text)
  | raised (failure : Failure L)

namespace Escape

def message {L : Library} : Escape L → Text
  | .usage message => message
  | .raised failure => failure.message

end Escape

structure Table where
  title : Text
  rows : List (List Text)
  deriving DecidableEq, Repr

structure Closing where
  code : Nat
  complaint : List Text
  deriving DecidableEq, Repr

/-- What stands around the commands: the library, the check of the settings, the decompressor, the
console that texts with marks are printed on, and what becomes of what leaves a command. -/
structure Frame extends Library where
  configure : Wishes → Except Error Settings
  loss : Gzip.Loss
  print : Text → Except Error (List Text)
  printTable : Table → Except Error Table
  close? : Escape toLibrary → Option Closing

end Command

end SubtreePartition
