import SubtreePartition.Proofs.Splitter.Run
import SubtreePartition.Worker

namespace SubtreePartition

def Call.starting (s : Splitter) (t : FileTree) (log : Log) : Call :=
  { worker := { task := s }, tree := t, phases := [.init], log }

namespace Worker

variable {m : Medium} {w : Worker} {t : FileTree} {p : Pass} {lines : Store.Stream}
  {start : Copy} {size : Nat}

structure Reaches (m : Medium) (s : Splitter) (t : FileTree) (size : Nat) : Prop where
  measured : measure m s t = .ok size
  necessary : Splitter.isUnnecessary s.settings (Splitter.threshold s.settings size) = false
  base : Splitter.isBaseProtected s.settings s.boundaries.resolve.1 = none

def FailsBefore (m : Medium) (s : Splitter) (t : FileTree) : Prop :=
  (∃ fault, measure m s t = .error fault) ∨
    ∃ size t' fault, Reaches m s t size ∧
      Call.makeDirectories m t s.settings.workDir = (t', some fault) ∧ fault.isSystem = false

inductive Opens (m : Medium) (s : Splitter) (t : FileTree) : Pass → Store.Stream → Copy → Prop where
  | intro {size : Nat} {t' u : FileTree} {bytes : Bytes} {writer : Writer}
      (reaches : Reaches m s t size)
      (directory : Call.makeDirectories m t s.settings.workDir = (t', none))
      (reads : m.ask t' s.source .openReader (t'.read s.source) = .ok bytes)
      (creates : Writer.create m t' (s.target.path 1) = .ok (writer, u)) :
      Opens m s t (s.sizedPass size) (Store.stream s.loss s.settings.compression bytes)
        { tree := u, active := s.target.opened 1, writer }

inductive Came (m : Medium) (s : Splitter) (t : FileTree) : Reply → Prop where
  | before (fails : FailsBefore m s t) (fault : SplitFault) (x : Call)
      (phases : x.phases = [.init]) (phase : x.worker.phase = .init)
      (partitions : x.worker.partitions = []) : Came m s t (.error fault, x)
  | skipped (x : Call) (phases : x.phases = [.init, .skip]) (phase : x.worker.phase = .skip)
      (partitions : x.worker.partitions = []) : Came m s t (.ok [s.source], x)
  | unopened (fault : SplitFault) (x : Call) (phases : x.phases = [.init, .streaming])
      (phase : x.worker.phase = .streaming) (partitions : x.worker.partitions.length ≤ 1) :
      Came m s t (.error fault, x)
  | opened {p : Pass} {lines : Store.Stream} {start : Copy} (t' : FileTree) (log : Log)
      (opens : Opens m s t p lines start) :
      Came m s t (((Call.starting s.resolved t' log).enter .streaming).copy m p lines start)

theorem split_eq (m : Medium) (w : Worker) (t : FileTree) :
    w.split m t =
      match measure m w.task t with
      | .error fault => (Call.starting w.task t []).fail fault
      | .ok size => (Call.starting w.task t []).plan m size :=
  rfl

theorem plan_eq (m : Medium) (s : Splitter) (t : FileTree) (size : Nat) :
    (Call.starting s t []).plan m size =
      if Splitter.isUnnecessary s.settings (Splitter.threshold s.settings size) then
        ((Call.starting s t []).report [.sourceSize size, .splitPlanned
          (Splitter.threshold s.settings size) s.settings.partitionCount.value]).skip .notNecessary
      else
        match Splitter.isBaseProtected s.settings s.boundaries.resolve.1 with
        | some base => (Call.starting s.resolved t (s.opening size)).skip (.baseCategory base)
        | none =>
            (Call.starting s.resolved t (s.opening size)).partitionInto m (s.sizedPass size) :=
  rfl

theorem split_of_reaches (h : Reaches m w.task t size) :
    w.split m t = (Call.starting w.task.resolved t (w.task.opening size)).partitionInto m
      (w.task.sizedPass size) := by
  simp only [split_eq, h.measured, plan_eq, h.necessary, Bool.false_eq_true, if_false, h.base]

theorem partitionInto_eq (m : Medium) (s : Splitter) (t : FileTree) (log : Log) (p : Pass) :
    (Call.starting s t log).partitionInto m p =
      match Call.makeDirectories m t s.settings.workDir with
      | (t, none) => (Call.starting s t log).stream m p
      | (t, some fault) =>
          if fault.isSystem then
            ((Call.starting s t log).report [.directoryFailed s.settings.workDir
              (fault.message s.settings.workDir)]).skip .noDirectory
          else (Call.starting s t log).fail (.access s.settings.workDir fault) :=
  rfl

theorem stream_eq (m : Medium) (s : Splitter) (t : FileTree) (log : Log) (p : Pass) :
    (Call.starting s t log).stream m p =
      let x := (Call.starting s t log).enter .streaming
      match m.ask t s.source .openReader (t.read s.source) with
      | .error fault => x.fail (.access s.source fault)
      | .ok bytes =>
          match Writer.create m t (s.target.path 1) with
          | .error fault => (x.append (s.target.opened 1)).fail (.access (s.target.path 1) fault)
          | .ok (writer, tree) =>
              x.copy m p (Store.stream s.loss s.settings.compression bytes)
                { tree, active := s.target.opened 1, writer } :=
  rfl

theorem split_of_failsBefore (h : FailsBefore m w.task t) :
    (w.split m t).2.worker.phase = .init := by
  obtain ⟨fault, hm⟩ | ⟨size, t', fault, hr, hd, hs⟩ := h
  · simp only [split_eq, hm]
    rfl
  · have hd' : Call.makeDirectories m t w.task.resolved.settings.workDir = (t', some fault) := hd
    simp only [split_of_reaches hr, partitionInto_eq, hd', hs]
    rfl

theorem Opens.split_eq (h : Opens m w.task t p lines start) :
    ∃ t' log, w.split m t =
      ((Call.starting w.task.resolved t' log).enter .streaming).copy m p lines start := by
  cases h with
  | @intro size t' u bytes writer reaches directory reads creates =>
    refine ⟨t', w.task.opening size, ?_⟩
    have hd : Call.makeDirectories m t w.task.resolved.settings.workDir = (t', none) := directory
    have hr : m.ask t' w.task.resolved.source .openReader (t'.read w.task.resolved.source) =
        .ok bytes := reads
    have hc : Writer.create m t' (w.task.resolved.target.path 1) = .ok (writer, u) := creates
    simp only [split_of_reaches reaches, partitionInto_eq, hd, stream_eq, hr, hc]
    rfl

theorem came_of_reaches (h : Reaches m w.task t size) : Came m w.task t (w.split m t) := by
  have hs : w.task.resolved.settings.workDir = w.task.settings.workDir := rfl
  rw [split_of_reaches h, partitionInto_eq, hs]
  rcases hd : Call.makeDirectories m t w.task.settings.workDir with ⟨t', _ | fault⟩
  · have hsource : w.task.resolved.source = w.task.source := rfl
    have htarget : w.task.resolved.target = w.task.target := rfl
    simp only [stream_eq, hsource, htarget]
    cases hr : m.ask t' w.task.source .openReader (t'.read w.task.source) with
    | error fault => exact .unopened _ _ rfl rfl (Nat.zero_le 1)
    | ok bytes =>
      cases hc : Writer.create m t' (w.task.target.path 1) with
      | error fault => exact .unopened _ _ rfl rfl (Nat.le_refl 1)
      | ok opened => exact .opened t' _ (.intro h hd hr hc)
  · cases hf : fault.isSystem with
    | true =>
      simp only [hf, if_true]
      exact .skipped _ rfl rfl rfl
    | false =>
      simp only [hf, Bool.false_eq_true, if_false]
      exact .before (.inr ⟨size, t', fault, h, hd, hf⟩) _ _ rfl rfl rfl

theorem came (m : Medium) (w : Worker) (t : FileTree) : Came m w.task t (w.split m t) := by
  cases hm : measure m w.task t with
  | error fault =>
    simp only [split_eq, hm]
    exact .before (.inl ⟨fault, hm⟩) _ _ rfl rfl rfl
  | ok size =>
    cases hn : Splitter.isUnnecessary w.task.settings (Splitter.threshold w.task.settings size) with
    | true =>
      simp only [split_eq, hm, plan_eq, hn, if_true]
      exact .skipped _ rfl rfl rfl
    | false =>
      cases hb : Splitter.isBaseProtected w.task.settings w.task.boundaries.resolve.1 with
      | some base =>
        simp only [split_eq, hm, plan_eq, hn, Bool.false_eq_true, if_false, hb]
        exact .skipped _ rfl rfl rfl
      | none => exact came_of_reaches ⟨hm, hn, hb⟩

end Worker

end SubtreePartition
