import SubtreePartition.Category.Bundled
import SubtreePartition.Command.Parse
import SubtreePartition.Command.Run
import SubtreePartition.Text.Width

namespace SubtreePartition

namespace Command

def Wishes.members (w : Wishes) : Datum.Members :=
  let number := fun (n : Int) => Datum.scalar (.integer n)
  [(.text "work_dir", .ofText w.workDir.text),
    (.text "partition_count", number w.partitionCount),
    (.text "min_split_size", number w.minSplitSize),
    (.text "threshold_override", (w.thresholdOverride.map number).getD (.scalar .null)),
    (.text "compression", .ofText w.compression.text),
    (.text "delete_original", .scalar (.bool w.deleteSource)),
    (.text "strict_order", .scalar (.bool w.strictOrder))]

namespace Frame

variable (ps : Markup.Pictographs)

def printed (t : Text) : Except BundledFault Text :=
  ((Markup.plain ps t).map Text.expandTabs).mapError .markup

def printedTable (t : Table) : Except BundledFault Table := do
  let title ← printed ps t.title
  let rows ← t.rows.mapM fun row => row.mapM (printed ps)
  return { title, rows }

/-- A wrong use is told with a code of its own; the end of a file is taken for a wish to stop. -/
def closingOf : Escape Library.bundled → Option Closing
  | .usage message => some ⟨2, [message]⟩
  | .raised failure => if failure.errorKind = .ended then some ⟨1, ["", "Aborted."]⟩ else none

def bundled : Frame where
  toLibrary := .bundled
  configure w :=
    ((Settings.check w.members).mapError (.invalid "SplitConfig")).map fun s =>
      { s with workDir := w.workDir }
  loss := .nothing
  print t := (printed ps t).map (Text.pieces Text.lineFeed)
  printTable := printedTable ps
  close? := closingOf

end Frame

def runLine (ps : Markup.Pictographs) (m : Medium) (args : List Text) (files : FileTree) :
    Report (Frame.bundled ps) :=
  match parse? files args with
  | some c => run m c files
  | none => { ending := .exit 2, tree := files }

end Command

end SubtreePartition
