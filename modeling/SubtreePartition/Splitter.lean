import SubtreePartition.Copy

namespace SubtreePartition

inductive Outcome where
  | skipped
  | split
  | failed (fault : SplitFault)
  deriving DecidableEq, Repr

/-- A source with everything that decides how it is split. The boundaries remember what they have
resolved to from one run to the next; the loss is that of the decompressor. -/
structure Splitter where
  source : FilePath
  settings : Settings
  boundaries : Boundaries
  loss : Gzip.Loss := .nothing

structure Run where
  outcome : Outcome
  phases : List Phase
  partitions : List Partition
  log : Log
  tree : FileTree
  splitter : Splitter

namespace Run

/-- The files to go on with: the source itself where it was not split. -/
def paths (r : Run) : List FilePath :=
  match r.outcome with
  | .skipped => [r.splitter.source]
  | _ => r.partitions.map Partition.path

def phase (r : Run) : Phase :=
  r.phases.getLast?.getD .init

end Run

namespace Splitter

def threshold (settings : Settings) (size : Nat) : Nat :=
  settings.thresholdOverride.getD (size / settings.partitionCount.value)

def isUnnecessary (settings : Settings) (threshold : Nat) : Bool :=
  threshold < settings.minSplitSize || settings.partitionCount.value ≤ 1

def isBaseProtected (settings : Settings) (categories : CategorySet) : Option Text :=
  settings.baseCategory.filter categories.contains

def target (s : Splitter) : Target :=
  ⟨s.settings.workDir, s.source, s.settings.compression⟩

def pass (s : Splitter) (categories : CategorySet) (threshold : Nat) : Pass :=
  { mode := if s.settings.strictOrder then .strict else .lenient
    field := s.settings.categoryField
    planner := ⟨categories, threshold, s.settings.partitionCount.value⟩ }

def stop (s : Splitter) (t : FileTree) (outcome : Outcome) (phases : List Phase) (log : Log) :
    Run :=
  ⟨outcome, phases, [], log, t, s⟩

def skip (s : Splitter) (t : FileTree) (log : Log) (reason : SkipReason) : Run :=
  s.stop t .skipped [.init, .skip] (log ++ [.skipped s.source reason])

def closing (partitions : List Partition) : Log :=
  (partitions.getLast?.map fun p => Event.partitionCreated p.path p.size).toList ++
    [.lineCount ((partitions.map Partition.records).foldr (· + ·) 0)]

def finish (s : Splitter) (r : Run) : Run :=
  if s.settings.deleteSource then
    match r.tree.remove s.source with
    | .ok t => { r with tree := t, log := r.log ++ [.sourceDeleted s.source] }
    | .error fault => { r with outcome := .failed (.access s.source fault) }
  else r

/-- Writes the partitions of a source whose lines can be read. A file that cannot be opened is met
before any line that comes after it. -/
def writeOut (s : Splitter) (t : FileTree) (log : Log) (p : Pass) (lines : Store.Stream) : Run :=
  let (items, rejection) := p.acceptAll lines.lines
  let published := s.target.publish t (Pass.deal p.planner items)
  let failed := fun fault =>
    (⟨.failed fault, .init :: published.phases, published.partitions, log ++ published.log,
      published.tree, s⟩ : Run)
  match published.fault, rejection, lines.fault with
  | some fault, _, _ =>
      failed (.access ((published.partitions.getLast?.map Partition.path).getD s.source) fault)
  | none, some rejection, _ => failed (.line rejection)
  | none, none, some fault => failed (.stream fault)
  | none, none, none =>
      s.finish
        { outcome := .split
          phases := .init :: (published.phases ++ [.done])
          partitions := published.partitions
          log := log ++ (published.log ++ closing published.partitions)
          tree := published.tree
          splitter := s }

def stream (s : Splitter) (t : FileTree) (log : Log) (p : Pass) : Run :=
  match t.read s.source with
  | .error fault => s.stop t (.failed (.access s.source fault)) [.init, .streaming] log
  | .ok bytes => s.writeOut t log p (Store.stream s.loss s.settings.compression bytes)

def partitionInto (s : Splitter) (t : FileTree) (log : Log) (p : Pass) : Run :=
  match t.makeDirectories s.settings.workDir with
  | (t, none) => s.stream t log p
  | (t, some fault) =>
      if fault.isSystem then
        s.skip t
          (log ++ [.directoryFailed s.settings.workDir (fault.message s.settings.workDir)])
          .noDirectory
      else s.stop t (.failed (.access s.settings.workDir fault)) [.init] log

def runSized (s : Splitter) (t : FileTree) (size : Nat) : Run :=
  let limit := threshold s.settings size
  let log : Log :=
    [.sourceSize size, .splitPlanned limit s.settings.partitionCount.value]
  if isUnnecessary s.settings limit then s.skip t log .notNecessary
  else
    let (categories, resolving, boundaries) := s.boundaries.resolve
    let s := { s with boundaries := boundaries }
    let log := log ++ (resolving ++ [.protectedCount categories.size])
    match isBaseProtected s.settings categories with
    | some base => s.skip t log (.baseCategory base)
    | none => s.partitionInto t log (s.pass categories limit)

def run (s : Splitter) (t : FileTree) : Run :=
  match Store.size s.settings.compression t s.source with
  | .error (.access fault) => s.stop t (.failed (.access s.source fault)) [.init] []
  | .error fault => s.stop t (.failed (.size fault)) [.init] []
  | .ok size => s.runSized t size

end Splitter

end SubtreePartition
