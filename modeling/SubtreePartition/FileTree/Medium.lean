import SubtreePartition.FileTree.Access

namespace SubtreePartition

/-- What is asked of the system about a path. Writing and closing go with the chunks that have been
handed over so far, last first. -/
inductive Demand where
  | measure
  | makeDirectories
  | openReader
  | readLine (number : Nat)
  | openWriter
  | write (chunks : List Bytes) (chunk : Bytes)
  | close (chunks : List Bytes)
  | remove
  deriving DecidableEq, Repr

/-- What lies below the files. It may refuse what they allow, as a full disk does, and decides what
is left of a file that could not be finished. -/
structure Medium where
  refuses : FileTree → FilePath → Demand → Option Refusal := fun _ _ _ => none
  remnant : FilePath → List Bytes → Bytes := fun _ _ => []

namespace Medium

def sound : Medium := {}

def ask {α : Type} (m : Medium) (t : FileTree) (p : FilePath) (r : Demand) :
    Except FileFault α → Except FileFault α
  | .error fault => .error fault
  | .ok a =>
      match m.refuses t p r with
      | some refusal => .error (.refused refusal)
      | none => .ok a

theorem ask_sound {α : Type} (t : FileTree) (p : FilePath) (r : Demand) (x : Except FileFault α) :
    sound.ask t p r x = x := by
  cases x <;> rfl

end Medium

end SubtreePartition
