import SubtreePartition.Proofs.FileTree.Making
import SubtreePartition.Proofs.Splitter.Run

namespace SubtreePartition.Splitter

variable {s : Splitter} {t t' : FileTree} {log : Log} {p : Pass} {lines : Store.Stream}
  {size : Nat} {reason : SkipReason} {fault : FileFault}

def IsNeedless (s : Splitter) (size : Nat) : Prop :=
  threshold s.settings size < s.settings.minSplitSize ∨ s.settings.partitionCount.value ≤ 1

def ProtectsBase (s : Splitter) : Prop :=
  ∃ base, s.settings.baseCategory = some base ∧ s.boundaries.resolve.1.contains base = true

theorem isUnnecessary_iff :
    isUnnecessary s.settings (threshold s.settings size) = true ↔ s.IsNeedless size := by
  simp [isUnnecessary, IsNeedless]

theorem isBaseProtected_eq_some_iff {base : Text} :
    isBaseProtected s.settings s.boundaries.resolve.1 = some base ↔
      s.settings.baseCategory = some base ∧ s.boundaries.resolve.1.contains base = true := by
  rw [isBaseProtected, Option.filter_eq_some_iff]

theorem isBaseProtected_eq_none (h : ¬ s.ProtectsBase) :
    isBaseProtected s.settings s.boundaries.resolve.1 = none := by
  rw [Option.eq_none_iff_forall_ne_some]
  intro base hb
  exact h ⟨base, isBaseProtected_eq_some_iff.mp hb⟩

theorem writeOut_ne_skipped (s : Splitter) (t : FileTree) (log : Log) (p : Pass)
    (lines : Store.Stream) : (s.writeOut t log p lines).outcome ≠ .skipped := by
  cases s.ending_writeOut t log p lines with
  | unopened fault publishes run => simp [run, broken]
  | rejected rejection publishes accepts run => simp [run, broken]
  | interrupted fault publishes accepts reads run => simp [run, broken]
  | finished publishes accepts reads run =>
    rw [run, finish]
    split
    · split <;> simp [completed]
    · simp [completed]

structure Skipped (s : Splitter) (t : FileTree) (r : Run) : Prop where
  outcome : r.outcome = .skipped
  phases : r.phases = [.init, .skip]
  paths : r.paths = [s.source]
  partitions : r.partitions = []
  source : ∀ n, t.get s.source = .ok n → r.tree.get s.source = .ok n
  files : ∀ l content, r.tree.find? l = some (.file content) ↔ t.find? l = some (.file content)

theorem Skipped.of_resolved {r : Run} (h : s.resolved.Skipped t r) : s.Skipped t r :=
  ⟨h.outcome, h.phases, h.paths, h.partitions, h.source, h.files⟩

section Causes

variable (h : Store.size s.settings.compression t s.source = .ok size)
include h

theorem run_of_needless (hn : s.IsNeedless size) :
    s.run t = s.skip t
      [.sourceSize size, .splitPlanned (threshold s.settings size) s.settings.partitionCount.value]
      .notNecessary := by
  simp only [run, h, runSized, isUnnecessary_iff.mpr hn, if_true]

theorem run_of_base {base : Text} (hn : ¬ s.IsNeedless size)
    (hb : isBaseProtected s.settings s.boundaries.resolve.1 = some base) :
    s.run t = s.resolved.skip t (s.opening size) (.baseCategory base) := by
  have hu := Bool.eq_false_iff.mpr (mt isUnnecessary_iff.mp hn)
  simp only [run, h, runSized, hu, Bool.false_eq_true, if_false, hb]
  rfl

theorem run_of_unprotected (hn : ¬ s.IsNeedless size) (hb : ¬ s.ProtectsBase) :
    s.run t = s.resolved.partitionInto t (s.opening size) (s.sizedPass size) := by
  have hu := Bool.eq_false_iff.mpr (mt isUnnecessary_iff.mp hn)
  exact Reaches.run_eq ⟨h, hu, isBaseProtected_eq_none hb⟩

end Causes

end SubtreePartition.Splitter
