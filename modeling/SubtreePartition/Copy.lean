import SubtreePartition.Category.Boundaries
import SubtreePartition.FileTree.Medium
import SubtreePartition.Partition
import SubtreePartition.Pass

namespace SubtreePartition

inductive SplitFault where
  | access (path : FilePath) (fault : FileFault)
  | size (fault : Store.SizeFault)
  | line (rejection : Rejection)
  | stream (fault : Gzip.Fault)
  | transfer (path : FilePath) (refusal : Refusal)
  deriving DecidableEq, Repr

namespace SplitFault

def message (source : FilePath) : SplitFault → Text
  | .access path fault => fault.message path
  | .size fault => fault.message source
  | .line (.malformed fault) => fault.message
  | .line (.unsorted fault) => fault.message
  | .stream fault => fault.message
  | .transfer _ refusal => refusal.message

end SplitFault

/-- A file that has been opened for writing, with the chunks it has got, last first. It is torn when
a chunk has not come through. -/
structure Writer where
  path : FilePath
  place : Location
  chunks : List Bytes := []
  isOpen : Bool := true
  isTorn : Bool := false
  deriving DecidableEq, Repr

namespace Writer

def create (m : Medium) (t : FileTree) (p : FilePath) : Except FileFault (Writer × FileTree) :=
  (m.ask t p .openWriter (t.openWriter p)).map fun (place, t) => ({ path := p, place }, t)

def content (m : Medium) (c : Compression) (w : Writer) : Bytes :=
  if w.isTorn then m.remnant w.path w.chunks else Store.encode c w.chunks.reverse.flatten

end Writer

/-- The loop over the lines of a source: the partitions before the one that is being filled, last
first, that one with its writer, and the lines so far. The phases and the reports are its own. -/
structure Copy where
  tree : FileTree
  closed : List Partition := []
  active : Partition
  writer : Writer
  ancestry : Ancestry := []
  lines : Nat := 0
  phases : List Phase := []
  log : Log := []

namespace Copy

abbrev Step := Except (SplitFault × Copy) Copy

def partitions (x : Copy) : List Partition :=
  x.closed.reverse ++ [x.active]

def leave (x : Copy) (content : Bytes) : Copy :=
  { x with
    tree := x.tree.put x.writer.place (.file content)
    writer := { x.writer with isOpen := false } }

def close (m : Medium) (c : Compression) (x : Copy) : Step :=
  if x.writer.isOpen then
    match m.refuses x.tree x.writer.path (.close x.writer.chunks) with
    | some refusal =>
        .error (.transfer x.writer.path refusal,
          x.leave (m.remnant x.writer.path x.writer.chunks))
    | none => .ok (x.leave (x.writer.content m c))
  else .ok x

def enter (x : Copy) (phase : Phase) : Copy :=
  { x with phases := x.phases ++ [phase] }

def report (x : Copy) (event : Event) : Copy :=
  { x with log := x.log ++ [event] }

/-- Goes on with the next partition, which counts from here on, also if it cannot be opened. -/
def advance (m : Medium) (g : Target) (x : Copy) : Step :=
  let next := g.opened (x.active.index + 1)
  let x := { x with closed := x.active :: x.closed, active := next }
  match Writer.create m x.tree next.path with
  | .error fault => .error (.access next.path fault, x)
  | .ok (writer, tree) => .ok { x with writer, tree }

def rotate (m : Medium) (g : Target) (x : Copy) : Step := do
  let x ← (x.enter .rotate).close m g.compression
  let x ← (x.report (.partitionCreated x.active.path x.active.size)).advance m g
  return (x.report (.cutFound x.lines x.active.path)).enter .streaming

def add (x : Copy) (raw : Bytes) : Copy :=
  { x with
    writer := { x.writer with chunks := raw :: x.writer.chunks }
    active := { x.active with size := x.active.size + raw.length, records := x.active.records + 1 }
    lines := x.lines + 1 }

def tear (x : Copy) : Copy :=
  { x with writer := { x.writer with isTorn := true } }

def write (m : Medium) (x : Copy) (raw : Bytes) : Step :=
  match m.refuses x.tree x.writer.path (.write x.writer.chunks raw) with
  | some refusal => .error (.transfer x.writer.path refusal, x.tear)
  | none => .ok (x.add raw)

def track (p : Pass) (x : Copy) (raw : Bytes) : Step :=
  match Record.ofRaw p.field raw with
  | .error fault => .error (.line (.malformed fault), x)
  | .ok r =>
      match x.ancestry.enter p.mode r with
      | (a, some fault) => .error (.line (.unsorted fault), { x with ancestry := a })
      | (a, none) => .ok { x with ancestry := a }

def pull (m : Medium) (source : FilePath) (x : Copy) : Step :=
  match m.refuses x.tree source (.readLine x.lines) with
  | some refusal => .error (.transfer source refusal, x)
  | none => .ok x

def isCut (p : Pass) (x : Copy) : Bool :=
  p.planner.cut x.active.size x.active.index x.ancestry.categories

/-- Copies one line. All checks come before it has any effect. -/
def take (m : Medium) (g : Target) (p : Pass) (x : Copy) (raw : Bytes) : Step := do
  let x ← x.pull m g.source
  let x ← x.track p raw
  let x ← if x.isCut p then x.rotate m g else pure x
  x.write m raw

def takeAll (m : Medium) (g : Target) (p : Pass) (x : Copy) (lines : Store.Stream) : Step := do
  let x ← lines.lines.foldlM (take m g p) x
  let x ← x.pull m g.source
  match lines.fault with
  | some fault => .error (.stream fault, x)
  | none => .ok x

/-- Closes the writer whatever the loop has come to. A fault of the closing hides an earlier one. -/
def ensureClosed (m : Medium) (c : Compression) : Step → Step
  | .ok x => x.close m c
  | .error (fault, x) => do
      let x ← x.close m c
      .error (fault, x)

end Copy

end SubtreePartition
