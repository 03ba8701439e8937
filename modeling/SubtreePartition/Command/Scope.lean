import SubtreePartition.Command.Parse
import SubtreePartition.Command.Run

namespace SubtreePartition.Command

structure Scope where
  places : List FilePath := []
  workDirs : List FilePath := []
  deriving DecidableEq, Repr

namespace Scope

def ofArguments (a : Arguments) : Scope :=
  let sources := a.operands.map FilePath.parse
  let workDirs :=
    match a.text? .workDir with
    | some t => [FilePath.parse t]
    | none => sources.map fun source => source.parent.child defaultDirectory
  let documents := ((a.text? .hierarchy).toList ++ (a.text? .indexes).toList).map FilePath.parse
  { places := sources ++ workDirs ++ documents, workDirs }

def ofLine : List Text → Scope
  | [] => {}
  | name :: rest =>
      let args := if name = Arguments.endOfOptions then rest.tail else rest
      ((Arguments.read splitForms args).map ofArguments).getD {}

end Scope

def wayFrom (here : Location) : List Text → List Location
  | [] => []
  | part :: rest =>
      let next := if part = FileTree.up then here.dropLast else here ++ [part]
      next :: wayFrom next rest

def way (current : Location) (p : FilePath) : List Location :=
  wayFrom [] (if p.isAbsolute then p.parts else current ++ p.parts)

def isPartitionName (name : Text) : Bool :=
  Text.startsWith name "split-"

end SubtreePartition.Command
