import SubtreePartition.Event
import SubtreePartition.Store

namespace SubtreePartition

inductive Phase where
  | init
  | skip
  | streaming
  | rotate
  | done
  deriving DecidableEq, Repr

namespace Phase

def text : Phase → Text
  | .init => "init"
  | .skip => "skip"
  | .streaming => "streaming"
  | .rotate => "rotate"
  | .done => "done"

end Phase

structure Partition where
  index : Nat
  path : FilePath
  size : Nat := 0
  records : Nat := 0
  deriving DecidableEq, Repr

structure Target where
  workDir : FilePath
  source : FilePath
  compression : Compression
  deriving DecidableEq, Repr

/-- What writing partitions has led to. After a fault the last partition has nothing in it. -/
structure Publication where
  tree : FileTree
  partitions : List Partition
  phases : List Phase := []
  log : Log := []
  fault : Option FileFault := none

namespace Target

def path (g : Target) (index : Nat) : FilePath :=
  .partition g.workDir index g.source

def opened (g : Target) (index : Nat) : Partition :=
  { index := index, path := g.path index }

def filled (g : Target) (index : Nat) (lines : List Bytes) : Partition :=
  { index := index
    path := g.path index
    size := lines.flatten.length
    records := lines.length }

def writeLines (g : Target) (t : FileTree) (index : Nat) (lines : List Bytes) :
    Except FileFault FileTree :=
  t.write (g.path index) (Store.encode g.compression lines.flatten)

def publishFrom (g : Target) (t : FileTree) (last : Partition) (line : Nat) :
    List (List Bytes) → Publication
  | [] => ⟨t, [], [], [], none⟩
  | lines :: rest =>
      let closed := Event.partitionCreated last.path last.size
      match g.writeLines t (last.index + 1) lines with
      | .error fault =>
          { tree := t
            partitions := [g.opened (last.index + 1)]
            phases := [.rotate]
            log := [closed]
            fault := some fault }
      | .ok t =>
          let p := g.filled (last.index + 1) lines
          let next := publishFrom g t p (line + last.records) rest
          { next with
            partitions := p :: next.partitions
            phases := .rotate :: .streaming :: next.phases
            log := closed :: .cutFound (line + last.records) p.path :: next.log }

def publish (g : Target) (t : FileTree) : List (List Bytes) → Publication
  | [] => ⟨t, [], [.streaming], [], none⟩
  | lines :: rest =>
      match g.writeLines t 1 lines with
      | .error fault =>
          { tree := t
            partitions := [g.opened 1]
            phases := [.streaming]
            fault := some fault }
      | .ok t =>
          let p := g.filled 1 lines
          let next := g.publishFrom t p 0 rest
          { next with
            partitions := p :: next.partitions
            phases := .streaming :: next.phases }

end Target

end SubtreePartition
