import SubtreePartition.Splitter

namespace SubtreePartition

/-- What splits a source. From one call to the next it keeps the phase it has come to and the
partitions it has opened, beside what its boundaries remember. -/
structure Worker where
  task : Splitter
  phase : Phase := .init
  partitions : List Partition := []

structure Call where
  worker : Worker
  tree : FileTree
  phases : List Phase := []
  log : Log := []

abbrev Reply := Except SplitFault (List FilePath) × Call

namespace Call

def enter (x : Call) (phase : Phase) : Call :=
  { x with worker := { x.worker with phase }, phases := x.phases ++ [phase] }

def report (x : Call) (events : Log) : Call :=
  { x with log := x.log ++ events }

def append (x : Call) (p : Partition) : Call :=
  { x with worker := { x.worker with partitions := x.worker.partitions ++ [p] } }

def skip (x : Call) (reason : SkipReason) : Reply :=
  let source := x.worker.task.source
  (.ok [source], (x.report [.skipped source reason]).enter .skip)

def fail (x : Call) (fault : SplitFault) : Reply :=
  (.error fault, x)

def absorb (x : Call) (y : Copy) : Call :=
  { worker :=
      { x.worker with
        phase := y.phases.getLast?.getD x.worker.phase
        partitions := y.partitions }
    tree := y.tree
    phases := x.phases ++ y.phases
    log := x.log ++ y.log }

def finish (m : Medium) (x : Call) : Reply :=
  let s := x.worker.task
  let paths := x.worker.partitions.map Partition.path
  if s.settings.deleteSource then
    match m.ask x.tree s.source .remove (x.tree.remove s.source) with
    | .ok tree => (.ok paths, { x with tree }.report [.sourceDeleted s.source])
    | .error fault => x.fail (.access s.source fault)
  else (.ok paths, x)

def copy (m : Medium) (x : Call) (p : Pass) (lines : Store.Stream) (y : Copy) : Reply :=
  let g := x.worker.task.target
  match Copy.ensureClosed m g.compression (y.takeAll m g p lines) with
  | .error (fault, y) => (x.absorb y).fail fault
  | .ok y =>
      finish m (((x.absorb y).report
        [.partitionCreated y.active.path y.active.size, .lineCount y.lines]).enter .done)

/-- Opens the source and the first partition, which counts also if it cannot be opened. -/
def stream (m : Medium) (x : Call) (p : Pass) : Reply :=
  let s := x.worker.task
  let x := x.enter .streaming
  match m.ask x.tree s.source .openReader (x.tree.read s.source) with
  | .error fault => x.fail (.access s.source fault)
  | .ok bytes =>
      let first := s.target.opened 1
      match Writer.create m x.tree first.path with
      | .error fault => (x.append first).fail (.access first.path fault)
      | .ok (writer, tree) =>
          x.copy m p (Store.stream s.loss s.settings.compression bytes)
            { tree, closed := x.worker.partitions.reverse, active := first, writer }

def makeDirectories (m : Medium) (t : FileTree) (p : FilePath) : FileTree × Option FileFault :=
  match m.refuses t p .makeDirectories with
  | some refusal => (t, some (.refused refusal))
  | none => t.makeDirectories p

def partitionInto (m : Medium) (x : Call) (p : Pass) : Reply :=
  let workDir := x.worker.task.settings.workDir
  match makeDirectories m x.tree workDir with
  | (tree, none) => { x with tree }.stream m p
  | (tree, some fault) =>
      let x := { x with tree }
      if fault.isSystem then
        (x.report [.directoryFailed workDir (fault.message workDir)]).skip .noDirectory
      else x.fail (.access workDir fault)

def resolve (x : Call) : CategorySet × Call :=
  let s := x.worker.task
  let (categories, log, boundaries) := s.boundaries.resolve
  let x := { x with worker := { x.worker with task := { s with boundaries } } }
  (categories, x.report (log ++ [.protectedCount categories.size]))

def plan (m : Medium) (x : Call) (size : Nat) : Reply :=
  let settings := x.worker.task.settings
  let limit := Splitter.threshold settings size
  let x := x.report [.sourceSize size, .splitPlanned limit settings.partitionCount.value]
  if Splitter.isUnnecessary settings limit then x.skip .notNecessary
  else
    let (categories, x) := x.resolve
    match Splitter.isBaseProtected settings categories with
    | some base => x.skip (.baseCategory base)
    | none => x.partitionInto m (x.worker.task.pass categories limit)

end Call

namespace Worker

def new (s : Splitter) : Worker :=
  { task := s }

def measure (m : Medium) (s : Splitter) (t : FileTree) : Except SplitFault Nat :=
  match Store.size s.settings.compression t s.source with
  | .error (.access fault) => .error (.access s.source fault)
  | .error fault => .error (.size fault)
  | .ok size =>
      match m.refuses t s.source .measure with
      | some refusal => .error (.access s.source (.refused refusal))
      | none => .ok size

/-- Splits the source. What an earlier call has left in the worker does not count. -/
def split (m : Medium) (w : Worker) (t : FileTree) : Reply :=
  let x : Call := Call.enter { worker := { w with partitions := [] }, tree := t } .init
  match measure m w.task t with
  | .error fault => x.fail fault
  | .ok size => x.plan m size

end Worker

end SubtreePartition
