import SubtreePartition.Command.Frame

namespace SubtreePartition.Command

variable {F : Frame}

inductive Ending (F : Frame) where
  | exit (code : Nat)
  | escape (e : Escape F.toLibrary)

structure Report (F : Frame) where
  ending : Ending F
  lines : List Text := []
  table : Option Table := none
  complaint : List Text := []
  log : Log := []
  tree : FileTree

namespace Frame

variable (F)

def endingOf (e : Escape F.toLibrary) : Ending F :=
  match F.close? e with
  | some closing => .exit closing.code
  | none => .escape e

def printAll (done : List Text) : List Text → List Text × Option F.Error
  | [] => (done, none)
  | t :: rest =>
      match F.print t with
      | .ok lines => printAll (done ++ lines) rest
      | .error e => (done, some e)

end Frame

namespace Report

def left (e : Escape F.toLibrary) (lines : List Text) (log : Log) (tree : FileTree) : Report F :=
  { ending := F.endingOf e
    lines
    complaint := ((F.close? e).map Closing.complaint).getD []
    log
    tree }

def print (code : Nat) (texts : List Text) (log : Log) (tree : FileTree) : Report F :=
  match F.printAll [] texts with
  | (lines, none) => { ending := .exit code, lines, log, tree }
  | (lines, some e) => left (.raised (.printing e)) lines log tree

def withTable (t : Table) (log : Log) (tree : FileTree) : Report F :=
  match F.printTable t with
  | .ok t => { ending := .exit 0, table := some t, log, tree }
  | .error e => left (.raised (.printing e)) [] log tree

end Report

def catches : Command → ErrorKind → Bool
  | .split _, .own | .split _, .value | .split _, .validation | .split _, .system => true
  | .categories _ _, .own => true
  | _, _ => false

def errorText (message : Text) : Text :=
  Text.join ["[bold red]Error:[/bold red] ", message]

def fail (c : Command) (f : Failure F.toLibrary) (log : Log) (tree : FileTree) : Report F :=
  if c.catches f.errorKind then .print 1 [errorText f.message] log tree
  else .left (.raised f) [] log tree

end SubtreePartition.Command
