import SubtreePartition.Proofs.Splitter.Again
import SubtreePartition.Proofs.Worker.Kept
import SubtreePartition.Proofs.Worker.Phases
import SubtreePartition.Proofs.Worker.Sound

namespace SubtreePartition

structure Sight where
  returned : Except SplitFault (List FilePath)
  phase : Phase
  phases : List Phase
  partitions : List Partition
  tree : FileTree

def Reply.sight (r : Reply) : Sight :=
  ⟨r.1, r.2.worker.phase, r.2.phases, r.2.worker.partitions, r.2.tree⟩

namespace Worker

variable {m : Medium} {w : Worker} {s s' : Splitter} {t : FileTree} {p : Pass}

theorem sight_finish {x y : Call} (hsource : x.worker.task.source = y.worker.task.source)
    (hsettings : x.worker.task.settings = y.worker.task.settings)
    (hphase : x.worker.phase = y.worker.phase) (hphases : x.phases = y.phases)
    (hpartitions : x.worker.partitions = y.worker.partitions) (htree : x.tree = y.tree) :
    Reply.sight (x.finish m) = Reply.sight (y.finish m) := by
  unfold Call.finish
  simp only [hsource, hsettings, htree, hpartitions]
  split
  · split
    · simp only [Reply.sight, Call.report, hphase, hphases, hpartitions]
    · simp only [Reply.sight, Call.fail, hphase, hphases, hpartitions, htree]
  · simp only [Reply.sight, hphase, hphases, hpartitions, htree]

def withBoundaries (s : Splitter) (b : Boundaries) : Splitter :=
  { s with boundaries := b }

theorem sight_copy (s : Splitter) (b : Boundaries) (t : FileTree) (log log' : Log) (p : Pass)
    (lines : Store.Stream) (y : Copy) :
    Reply.sight (((Call.starting (withBoundaries s b) t log).enter .streaming).copy m p lines y) =
      Reply.sight (((Call.starting s t log').enter .streaming).copy m p lines y) := by
  have htarget : ((Call.starting (withBoundaries s b) t log).enter .streaming).worker.task.target =
      s.target := rfl
  have htarget' : ((Call.starting s t log').enter .streaming).worker.task.target = s.target := rfl
  unfold Call.copy
  rw [htarget, htarget']
  dsimp only
  cases Copy.ensureClosed m s.target.compression (y.takeAll m s.target p lines) with
  | error e => rfl
  | ok z => exact sight_finish rfl rfl rfl rfl rfl rfl

theorem sight_stream (s : Splitter) (b : Boundaries) (t : FileTree) (log log' : Log) (p : Pass) :
    Reply.sight ((Call.starting (withBoundaries s b) t log).stream m p) =
      Reply.sight ((Call.starting s t log').stream m p) := by
  have hsource : (withBoundaries s b).source = s.source := rfl
  have htarget : (withBoundaries s b).target = s.target := rfl
  have hsettings : (withBoundaries s b).settings = s.settings := rfl
  rw [stream_eq, stream_eq, hsource, htarget, hsettings]
  dsimp only
  cases m.ask t s.source .openReader (t.read s.source) with
  | error fault => rfl
  | ok bytes =>
    cases Writer.create m t (s.target.path 1) with
    | error fault => rfl
    | ok opened => exact sight_copy s b t log log' p _ _

theorem sight_partitionInto (s : Splitter) (b : Boundaries) (t : FileTree) (log log' : Log)
    (p : Pass) :
    Reply.sight ((Call.starting (withBoundaries s b) t log).partitionInto m p) =
      Reply.sight ((Call.starting s t log').partitionInto m p) := by
  have hsettings : (withBoundaries s b).settings = s.settings := rfl
  rw [partitionInto_eq, partitionInto_eq, hsettings]
  rcases Call.makeDirectories m t s.settings.workDir with ⟨t', _ | fault⟩
  · exact sight_stream s b t' log log' p
  · cases hf : fault.isSystem <;> simp only [hf] <;> rfl

theorem sight_resolved (m : Medium) (s : Splitter) (t : FileTree) :
    Reply.sight ((new s.resolved).split m t) = Reply.sight ((new s).split m t) := by
  have hresolve : s.resolved.boundaries.resolve =
      (s.boundaries.resolve.1, [], s.boundaries.resolve.2.2) := s.boundaries.resolve_again
  have hmeasure : measure m (new s.resolved).task t = measure m (new s).task t := rfl
  rw [split_eq, split_eq, hmeasure]
  cases measure m (new s).task t with
  | error fault => rfl
  | ok size =>
    have hsettings : s.resolved.settings = s.settings := rfl
    have htask : (new s).task = s ∧ (new s.resolved).task = s.resolved := ⟨rfl, rfl⟩
    rw [htask.1, htask.2]
    have hpass : s.resolved.sizedPass size = s.sizedPass size := by
      simp only [Splitter.sizedPass, hresolve]
      rfl
    dsimp only
    rw [plan_eq, plan_eq, hresolve, hsettings, hpass, s.resolved_resolved]
    split
    · rfl
    · dsimp only
      cases Splitter.isBaseProtected s.settings s.boundaries.resolve.1 with
      | some base => rfl
      | none => exact sight_partitionInto s.resolved s.resolved.boundaries t _ _ _

theorem sight_used (h : s.IsUsed s') (m : Medium) (t : FileTree) :
    Reply.sight ((new s').split m t) = Reply.sight ((new s).split m t) := by
  obtain rfl | rfl := h
  · rfl
  · exact sight_resolved m s t

theorem task_finish (x : Call) : (x.finish m).2.worker.task = x.worker.task := by
  rcases finish_cases m x with ⟨y, hy, -, hworker⟩ | ⟨fault, -, -, hx⟩
  · rw [hy, hworker]
  · rw [hx]

theorem task_copy (x : Call) (p : Pass) (lines : Store.Stream) (y : Copy) :
    (x.copy m p lines y).2.worker.task = x.worker.task := by
  unfold Call.copy
  dsimp only
  split
  · rfl
  · exact task_finish _

theorem isUsed_split (m : Medium) (w : Worker) (t : FileTree) :
    w.task.IsUsed (w.split m t).2.worker.task := by
  have hstream : ∀ t log p,
      ((Call.starting w.task.resolved t log).stream m p).2.worker.task = w.task.resolved := by
    intro t log p
    rw [stream_eq]
    dsimp only
    split
    · rfl
    · split
      · rfl
      · exact task_copy _ _ _ _
  rw [split_eq]
  split
  · exact .inl rfl
  · rw [plan_eq]
    split
    · exact .inl rfl
    · split
      · exact .inr rfl
      · rw [partitionInto_eq]
        split
        · exact .inr (hstream _ _ _)
        · split
          · exact .inr rfl
          · exact .inr rfl

theorem isUsed_split_of_used (h : s.IsUsed s') (m : Medium) (hw : w.task = s') (t : FileTree) :
    s.IsUsed (w.split m t).2.worker.task := by
  have hnext := isUsed_split m w t
  rw [hw] at hnext
  obtain rfl | rfl := h
  · exact hnext
  · obtain h | h := hnext
    · exact .inr h
    · exact .inr (h.trans s.resolved_resolved)

end Worker

end SubtreePartition
