import SubtreePartition.Command.Report

namespace SubtreePartition.Command

structure Column where
  heading : Text
  alignRight : Bool := false
  deriving DecidableEq, Repr

namespace Column

def fill (c : Column) (width : Nat) (cell : Text) : Text :=
  let blanks : Text := List.replicate (width - cell.length) 32
  if c.alignRight then blanks ++ cell else cell ++ blanks

end Column

def partitionColumns : List Column :=
  [{ heading := "#", alignRight := true }, { heading := "File" },
    { heading := "Records", alignRight := true }, { heading := "Size", alignRight := true }]

namespace Table

def widths (rows : List (List Text)) : List Nat :=
  rows.foldr (fun row widest =>
    (row.zipWith (fun cell width => max cell.length width) widest))
    (List.replicate partitionColumns.length 0)

def rowLine (widths : List Nat) (row : List Text) : Text :=
  Text.intercalate "  " ((partitionColumns.zip (widths.zip row)).map fun (c, width, cell) =>
    c.fill width cell)

def lines (t : Table) : List Text :=
  let rows := partitionColumns.map Column.heading :: t.rows
  t.title :: rows.map (rowLine (widths rows))

end Table

namespace Ending

variable {F : Frame}

def code : Ending F → Nat
  | .exit n => n
  | .escape _ => 1

def complaint : Ending F → List Text
  | .exit 2 => ["Usage: flatsplit (split | categories | version) [OPTIONS] [SOURCE]"]
  | .exit _ => []
  | .escape e => [e.message]

end Ending

def showCodePoint (c : CodePoint) : Text :=
  if Text.isSurrogate c then Text.join ["\\u", Text.hex 4 c] else [c]

def levelColumn : Column := { heading := [], alignRight := true }

def levelWidth : Nat := 8

def logLine (e : Event) : Text :=
  Text.join [levelColumn.fill levelWidth e.level.text, " ", e.message.flatMap showCodePoint]

namespace Report

variable {F : Frame}

def output (r : Report F) : List Text :=
  r.lines ++ (r.table.map Table.lines).getD []

def messages (r : Report F) : List Text :=
  r.log.map logLine ++ r.complaint ++ r.ending.complaint

end Report

end SubtreePartition.Command
