import SubtreePartition.Proofs.FileTree.Alike
import SubtreePartition.Proofs.Splitter.Run

namespace SubtreePartition

variable {R S : FileTree → FileTree → Prop} {t u : FileTree}

structure Publication.InStep (R : FileTree → FileTree → Prop) (a b : Publication) : Prop where
  trees : R a.tree b.tree
  partitions : b.partitions = a.partitions
  phases : b.phases = a.phases
  log : b.log = a.log
  fault : b.fault = a.fault

namespace Target

variable {g g' : Target}

structure InStep (R : FileTree → FileTree → Prop) (g g' : Target) : Prop where
  path : g'.path = g.path
  write : ∀ t u k lines, R t u →
    FileTree.GoesAlike R (g.writeLines t (k + 1) lines) (g'.writeLines u (k + 1) lines)

theorem InStep.filled (h : InStep R g g') : g'.filled = g.filled := by
  funext index lines
  rw [Target.filled, Target.filled, h.path]

theorem InStep.opened (h : InStep R g g') : g'.opened = g.opened := by
  funext index
  rw [Target.opened, Target.opened, h.path]

theorem inStep_publishFrom (h : InStep R g g') (hr : R t u) (last : Partition) (line : Nat)
    (groups : List (List Bytes)) :
    (g.publishFrom t last line groups).InStep R (g'.publishFrom u last line groups) := by
  induction groups generalizing t u last line with
  | nil => exact ⟨hr, rfl, rfl, rfl, rfl⟩
  | cons lines rest ih =>
    rw [publishFrom, publishFrom, h.opened, h.filled]
    rcases h.write t u last.index lines hr with ⟨fault, ht, hu⟩ | ⟨t', u', ht, hu, hr'⟩
    · rw [ht, hu]
      exact ⟨hr, rfl, rfl, rfl, rfl⟩
    · rw [ht, hu]
      have hnext := ih hr' (g.filled (last.index + 1) lines) (line + last.records)
      exact
        { trees := hnext.trees
          partitions := congrArg (g.filled (last.index + 1) lines :: ·) hnext.partitions
          phases := congrArg (fun phases => .rotate :: .streaming :: phases) hnext.phases
          log := congrArg (fun log => _ :: _ :: log) hnext.log
          fault := hnext.fault }

theorem inStep_publish (h : InStep R g g') (hr : R t u) (groups : List (List Bytes)) :
    (g.publish t groups).InStep R (g'.publish u groups) := by
  cases groups with
  | nil => exact ⟨hr, rfl, rfl, rfl, rfl⟩
  | cons lines rest =>
    rw [publish, publish, h.opened, h.filled]
    rcases h.write t u 0 lines hr with ⟨fault, ht, hu⟩ | ⟨t', u', ht, hu, hr'⟩
    · rw [ht, hu]
      exact ⟨hr, rfl, rfl, rfl, rfl⟩
    · rw [ht, hu]
      have hnext := inStep_publishFrom h hr' (g.filled 1 lines) 0 rest
      exact
        { trees := hnext.trees
          partitions := congrArg (g.filled 1 lines :: ·) hnext.partitions
          phases := congrArg (.streaming :: ·) hnext.phases
          log := hnext.log
          fault := hnext.fault }

end Target

structure Run.InStep (R : FileTree → FileTree → Prop) (r r' : Run) : Prop where
  trees : R r.tree r'.tree
  outcome : r'.outcome = r.outcome
  phases : r'.phases = r.phases
  partitions : r'.partitions = r.partitions
  log : r'.log = r.log
  source : r'.splitter.source = r.splitter.source

namespace Splitter

variable {s s' : Splitter} {r r' : Run}

/-- Two splitters whose partitions are written in step, and whose source is removed in step if it is
removed at all. While partitions are written the trees stand in the relation `R`, afterwards in the
relation `S`. -/
structure InStep (R S : FileTree → FileTree → Prop) (s s' : Splitter) : Prop where
  source : s'.source = s.source
  deleteSource : s'.settings.deleteSource = s.settings.deleteSource
  target : s.target.InStep R s'.target
  remove : ∀ t u, R t u → FileTree.GoesAlike S (t.remove s.source) (u.remove s.source)
  weaken : ∀ t u, R t u → S t u

theorem inStep_stop (h : R t u) (hs : s'.source = s.source) (outcome : Outcome)
    (phases : List Phase) (log : Log) :
    (s.stop t outcome phases log).InStep R (s'.stop u outcome phases log) :=
  ⟨h, rfl, rfl, rfl, rfl, hs⟩

theorem InStep.finish (h : s.InStep R S s') (hr : r.InStep R r') :
    (s.finish r).InStep S (s'.finish r') := by
  rw [Splitter.finish, Splitter.finish, h.deleteSource, h.source]
  split
  · rcases h.remove r.tree r'.tree hr.trees with ⟨fault, ht, hu⟩ | ⟨t, u, ht, hu, hr'⟩
    · rw [ht, hu]
      exact ⟨h.weaken _ _ hr.trees, rfl, hr.phases, hr.partitions, hr.log, hr.source⟩
    · rw [ht, hu]
      exact ⟨hr', hr.outcome, hr.phases, hr.partitions, congrArg (· ++ _) hr.log, hr.source⟩
  · exact ⟨h.weaken _ _ hr.trees, hr.outcome, hr.phases, hr.partitions, hr.log, hr.source⟩

theorem InStep.publication (h : s.InStep R S s') (hr : R t u) (p : Pass) (lines : Store.Stream) :
    (s.publication t p lines).InStep R (s'.publication u p lines) :=
  Target.inStep_publish h.target hr _

def stopsWith (s : Splitter) (t : FileTree) (p : Pass) (lines : Store.Stream) : Option SplitFault :=
  ((s.publication t p lines).fault.map (.access (s.lastPath t p lines))).or
    (((p.acceptAll lines.lines).2.map .line).or (lines.fault.map .stream))

theorem writeOut_eq (s : Splitter) (t : FileTree) (log : Log) (p : Pass) (lines : Store.Stream) :
    s.writeOut t log p lines =
      match s.stopsWith t p lines with
      | some fault => s.broken t log p lines fault
      | none => s.finish (s.completed t log p lines) := by
  cases s.ending_writeOut t log p lines with
  | unopened fault publishes run => simp [stopsWith, publishes, run]
  | rejected rejection publishes accepts run => simp [stopsWith, publishes, accepts, run]
  | interrupted fault publishes accepts reads run =>
    simp [stopsWith, publishes, accepts, reads, run]
  | finished publishes accepts reads run => simp [stopsWith, publishes, accepts, reads, run]

theorem InStep.writeOut (h : s.InStep R S s') (hr : R t u) (log : Log) (p : Pass)
    (lines : Store.Stream) :
    (s.writeOut t log p lines).InStep S (s'.writeOut u log p lines) := by
  have hp := h.publication hr p lines
  have hstop : s'.stopsWith u p lines = s.stopsWith t p lines := by
    rw [stopsWith, stopsWith, lastPath, lastPath, hp.fault, hp.partitions, h.source]
  rw [writeOut_eq, writeOut_eq, hstop]
  cases s.stopsWith t p lines with
  | some fault =>
    exact
      { trees := h.weaken _ _ hp.trees
        outcome := rfl
        phases := congrArg (Phase.init :: ·) hp.phases
        partitions := hp.partitions
        log := congrArg (log ++ ·) hp.log
        source := h.source }
  | none =>
    apply h.finish
    exact
      { trees := hp.trees
        outcome := rfl
        phases := congrArg (fun phases => Phase.init :: (phases ++ [Phase.done])) hp.phases
        partitions := hp.partitions
        log := by rw [completed, completed, hp.log, hp.partitions]
        source := h.source }

end Splitter

end SubtreePartition
