import SubtreePartition.FileTree.Access
import SubtreePartition.Library

namespace SubtreePartition

variable {L : Library}

inductive DocumentKind where
  | hierarchy
  | indexes
  deriving DecidableEq, Repr

namespace DocumentKind

def text : DocumentKind → Text
  | .hierarchy => "category hierarchy"
  | .indexes => "index definitions"

end DocumentKind

def ErrorKind.isConfiguration : ErrorKind → Bool
  | .system | .document | .validation | .mismatch => true
  | _ => false

namespace FileFault

def errorKind (fault : FileFault) : ErrorKind :=
  if fault.isSystem then .system else .value

end FileFault

inductive LoadFault (L : Library) where
  | unreadable (fault : FileFault)
  | notAMapping
  | raised (e : L.Error)

namespace LoadFault

def errorKind : LoadFault L → ErrorKind
  | .unreadable fault => fault.errorKind
  | .notAMapping => .mismatch
  | .raised e => L.kind e

def isConfiguration (fault : LoadFault L) : Bool :=
  fault.errorKind.isConfiguration

def reason (file : FilePath) : LoadFault L → Text
  | .unreadable fault => fault.message file
  | .notAMapping => "a document must be a mapping of names"
  | .raised e => L.message e

end LoadFault

variable {α : Type} (L)

def checkFields (check : L.Fields → Except L.Error α) (v : L.Value) : Except (LoadFault L) α :=
  match L.fields? v with
  | none => .error .notAMapping
  | some fields => (check fields).mapError .raised

def readDocument (check : L.Fields → Except L.Error α) (files : FileTree) (file : FilePath) :
    Except (LoadFault L) α := do
  let content ← (files.read file).mapError .unreadable
  let v ← (L.safeLoad content).mapError .raised
  checkFields L check v

structure LoadFailure (L : Library) where
  kind : DocumentKind
  file : FilePath
  fault : LoadFault L

namespace LoadFailure

def errorKind (f : LoadFailure L) : ErrorKind :=
  if f.fault.isConfiguration then .own else f.fault.errorKind

def message (f : LoadFailure L) : Text :=
  let reason := f.fault.reason f.file
  if f.fault.isConfiguration then
    Text.join ["Cannot load ", f.kind.text, " ", f.file.text, ": ", reason]
  else reason

end LoadFailure

def Declarations.reports (ds : Declarations) : Log :=
  ds.undeclared.map fun u => .undeclaredSupertype u.1 u.2

def Hierarchy.load (files : FileTree) (file : FilePath) :
    Except (LoadFailure L) (Hierarchy × Log) := do
  let ds ← (readDocument L L.hierarchy files file).mapError (⟨.hierarchy, file, ·⟩)
  return (.ofDeclarations ds, .hierarchyLoaded ds.length file :: ds.reports)

def IndexDefinition.load (files : FileTree) (file : FilePath) :
    Except (LoadFailure L) (List IndexDefinition × Log) := do
  let definitions ← (readDocument L L.indexes files file).mapError (⟨.indexes, file, ·⟩)
  return (definitions, [.indexesLoaded definitions.length file])

end SubtreePartition
