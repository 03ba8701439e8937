import SubtreePartition.Proofs.Partition.Course
import SubtreePartition.Proofs.Partition.Publish
import SubtreePartition.Proofs.Pass.Dealing
import SubtreePartition.Proofs.Pass.Visits
import SubtreePartition.Proofs.Store.Content
import SubtreePartition.Splitter

namespace SubtreePartition

theorem Run.phase_of_concat {r : Run} {last : Phase} (front : List Phase)
    (h : r.phases = front ++ [last]) : r.phase = last := by
  rw [phase, h, List.getLast?_concat]
  rfl

namespace Splitter

variable {s : Splitter} {t : FileTree} {log : Log} {p : Pass} {lines : Store.Stream}

def resolved (s : Splitter) : Splitter :=
  { s with boundaries := s.boundaries.resolve.2.2 }

inductive EndsEarly : Outcome → Prop where
  | skipped : EndsEarly .skipped
  | access (path : FilePath) (fault : FileFault) : EndsEarly (.failed (.access path fault))
  | size (fault : Store.SizeFault) : EndsEarly (.failed (.size fault))

def StopsEarly (s : Splitter) (t : FileTree) (r : Run) : Prop :=
  ∃ s' t' outcome phases log, r = stop s' t' outcome phases log ∧ EndsEarly outcome ∧
    (t' = t ∨ ∃ fault, t.makeDirectories s.settings.workDir = (t', fault))

def sizedPass (s : Splitter) (size : Nat) : Pass :=
  s.pass s.boundaries.resolve.1 (threshold s.settings size)

def opening (s : Splitter) (size : Nat) : Log :=
  [.sourceSize size, .splitPlanned (threshold s.settings size) s.settings.partitionCount.value] ++
    (s.boundaries.resolve.2.1 ++ [.protectedCount s.boundaries.resolve.1.size])

structure Begins (s : Splitter) (t : FileTree) (n : Nat) (t' : FileTree) (bytes : Bytes) :
    Prop where
  size : Store.size s.settings.compression t s.source = .ok n
  necessary : isUnnecessary s.settings (threshold s.settings n) = false
  base : isBaseProtected s.settings s.boundaries.resolve.1 = none
  directory : t.makeDirectories s.settings.workDir = (t', none)
  bytes : t'.read s.source = .ok bytes

theorem Begins.extends {n : Nat} {t' : FileTree} {bytes : Bytes} (h : s.Begins t n t' bytes) :
    t.Extends t' :=
  FileTree.extends_makeDirectories h.directory

theorem Begins.read {n : Nat} {t' : FileTree} {bytes : Bytes} (h : s.Begins t n t' bytes) :
    t.read s.source = .ok bytes :=
  Store.read_of_size h.size h.extends h.bytes

theorem Begins.run_eq {n : Nat} {t' : FileTree} {bytes : Bytes} (h : s.Begins t n t' bytes) :
    s.run t = s.resolved.writeOut t' (s.opening n) (s.sizedPass n)
      (Store.stream s.loss s.settings.compression bytes) := by
  simp only [run, h.size, runSized, h.necessary, Bool.false_eq_true, if_false, h.base,
    partitionInto, h.directory, stream, h.bytes]
  rfl

structure Reaches (s : Splitter) (t : FileTree) (n : Nat) : Prop where
  size : Store.size s.settings.compression t s.source = .ok n
  necessary : isUnnecessary s.settings (threshold s.settings n) = false
  base : isBaseProtected s.settings s.boundaries.resolve.1 = none

theorem Reaches.run_eq {n : Nat} (h : s.Reaches t n) :
    s.run t = s.resolved.partitionInto t (s.opening n) (s.sizedPass n) := by
  simp only [run, h.size, runSized, h.necessary, Bool.false_eq_true, if_false, h.base]
  rfl

def sizeFailure (s : Splitter) : Store.SizeFault → SplitFault
  | .access fault => .access s.source fault
  | fault => .size fault

theorem endsEarly_sizeFailure (s : Splitter) (fault : Store.SizeFault) :
    EndsEarly (.failed (s.sizeFailure fault)) := by
  cases fault with
  | access fault => exact .access _ _
  | tooShort length => exact .size _
  | noMagic => exact .size _

inductive Stage (s : Splitter) (t : FileTree) (r : Run) : Prop where
  | unsized (fault : Store.SizeFault)
      (stated : Store.size s.settings.compression t s.source = .error fault)
      (run : r = s.stop t (.failed (s.sizeFailure fault)) [.init] []) : Stage s t r
  | needless (size : Nat) (log : Log)
      (stated : Store.size s.settings.compression t s.source = .ok size)
      (unnecessary : isUnnecessary s.settings (threshold s.settings size) = true)
      (run : r = s.skip t log .notNecessary) : Stage s t r
  | protecting (size : Nat) (base : Text)
      (stated : Store.size s.settings.compression t s.source = .ok size)
      (necessary : isUnnecessary s.settings (threshold s.settings size) = false)
      (isBase : isBaseProtected s.settings s.boundaries.resolve.1 = some base)
      (run : r = s.resolved.skip t (s.opening size) (.baseCategory base)) : Stage s t r
  | blocked (size : Nat) (t' : FileTree) (fault : FileFault) (log : Log)
      (reaches : s.Reaches t size) (makes : t.makeDirectories s.settings.workDir = (t', some fault))
      (system : fault.isSystem = true) (run : r = s.resolved.skip t' log .noDirectory) :
      Stage s t r
  | unnamed (size : Nat) (t' : FileTree) (fault : FileFault) (reaches : s.Reaches t size)
      (makes : t.makeDirectories s.settings.workDir = (t', some fault))
      (system : fault.isSystem = false)
      (run : r = s.resolved.stop t' (.failed (.access s.settings.workDir fault)) [.init]
        (s.opening size)) : Stage s t r
  | unread (size : Nat) (t' : FileTree) (fault : FileFault) (reaches : s.Reaches t size)
      (makes : t.makeDirectories s.settings.workDir = (t', none))
      (reads : t'.read s.source = .error fault)
      (run : r = s.resolved.stop t' (.failed (.access s.source fault)) [.init, .streaming]
        (s.opening size)) : Stage s t r
  | begins (size : Nat) (t' : FileTree) (bytes : Bytes) (begins : s.Begins t size t' bytes)
      (run : r = s.resolved.writeOut t' (s.opening size) (s.sizedPass size)
        (Store.stream s.loss s.settings.compression bytes)) : Stage s t r

theorem stage_of_reaches {n : Nat} (h : s.Reaches t n) : s.Stage t (s.run t) := by
  have hd : s.resolved.settings.workDir = s.settings.workDir := rfl
  have hs : s.resolved.source = s.source := rfl
  have hrun := h.run_eq
  rcases hm : t.makeDirectories s.settings.workDir with ⟨t', _ | fault⟩
  · cases hr : t'.read s.source with
    | error fault =>
      simp only [partitionInto, hd, hm, stream, hs, hr] at hrun
      exact .unread n t' fault h hm hr hrun
    | ok bytes =>
      have hb : s.Begins t n t' bytes := ⟨h.size, h.necessary, h.base, hm, hr⟩
      exact .begins n t' bytes hb hb.run_eq
  · cases hf : fault.isSystem with
    | true =>
      simp only [partitionInto, hd, hm, hf, if_true] at hrun
      exact .blocked n t' fault _ h hm hf hrun
    | false =>
      simp only [partitionInto, hd, hm, hf, Bool.false_eq_true, if_false] at hrun
      exact .unnamed n t' fault h hm hf hrun

theorem stage_run (s : Splitter) (t : FileTree) : s.Stage t (s.run t) := by
  cases hsize : Store.size s.settings.compression t s.source with
  | error fault =>
    refine .unsized fault hsize ?_
    simp only [run, hsize]
    cases fault <;> rfl
  | ok size =>
    cases hn : isUnnecessary s.settings (threshold s.settings size) with
    | true =>
      have hrun : ∃ log, s.run t = s.skip t log .notNecessary := by
        simp only [run, hsize, runSized, hn, if_true]
        exact ⟨_, rfl⟩
      obtain ⟨log, hr⟩ := hrun
      exact .needless size log hsize hn hr
    | false =>
      cases hb : isBaseProtected s.settings s.boundaries.resolve.1 with
      | some base =>
        refine .protecting size base hsize hn hb ?_
        simp only [run, hsize, runSized, hn, Bool.false_eq_true, if_false, hb]
        rfl
      | none => exact stage_of_reaches ⟨hsize, hn, hb⟩

theorem run_stages (s : Splitter) (t : FileTree) :
    s.StopsEarly t (s.run t) ∨ ∃ size t' bytes, s.Begins t size t' bytes := by
  cases s.stage_run t with
  | unsized fault stated run =>
    exact .inl ⟨s, t, _, _, _, run, s.endsEarly_sizeFailure fault, .inl rfl⟩
  | needless size log stated unnecessary run =>
    exact .inl ⟨s, t, _, _, _, run, .skipped, .inl rfl⟩
  | protecting size base stated necessary isBase run =>
    exact .inl ⟨s.resolved, t, _, _, _, run, .skipped, .inl rfl⟩
  | blocked size t' fault log reaches makes system run =>
    exact .inl ⟨s.resolved, t', _, _, _, run, .skipped, .inr ⟨_, makes⟩⟩
  | unnamed size t' fault reaches makes system run =>
    exact .inl ⟨s.resolved, t', _, _, _, run, .access _ _, .inr ⟨_, makes⟩⟩
  | unread size t' fault reaches makes reads run =>
    exact .inl ⟨s.resolved, t', _, _, _, run, .access _ _, .inr ⟨_, makes⟩⟩
  | begins size t' bytes begins run => exact .inr ⟨size, t', bytes, begins⟩

theorem exists_begins (h : ¬ EndsEarly (s.run t).outcome) :
    ∃ size t' bytes, s.Begins t size t' bytes := by
  rcases s.run_stages t with ⟨s', t', outcome, phases, log, hr, he, -⟩ | hb
  · rw [hr] at h
    exact absurd he h
  · exact hb

theorem exists_begins_of_done (h : (s.run t).phase = .done) :
    ∃ size t' bytes, s.Begins t size t' bytes := by
  cases s.stage_run t with
  | unsized fault stated run => exact absurd (run ▸ h) nofun
  | needless size log stated unnecessary run => exact absurd (run ▸ h) nofun
  | protecting size base stated necessary isBase run => exact absurd (run ▸ h) nofun
  | blocked size t' fault log reaches makes system run => exact absurd (run ▸ h) nofun
  | unnamed size t' fault reaches makes system run => exact absurd (run ▸ h) nofun
  | unread size t' fault reaches makes reads run => exact absurd (run ▸ h) nofun
  | begins size t' bytes begins run => exact ⟨size, t', bytes, begins⟩

theorem run_cases (s : Splitter) (t : FileTree) :
    (∃ s' t' outcome phases log, s.run t = stop s' t' outcome phases log ∧ outcome ≠ .split) ∨
      ∃ size t' bytes log, Store.size s.settings.compression t s.source = .ok size ∧
        t.makeDirectories s.settings.workDir = (t', none) ∧ t'.read s.source = .ok bytes ∧
        s.run t = s.resolved.writeOut t' log
          (s.pass s.boundaries.resolve.1 (threshold s.settings size))
          (Store.stream s.loss s.settings.compression bytes) := by
  rcases s.run_stages t with ⟨s', t', outcome, phases, log, hr, he, -⟩ | ⟨size, t', bytes, hb⟩
  · exact .inl ⟨s', t', outcome, phases, log, hr, by cases he <;> simp⟩
  · exact .inr ⟨size, t', bytes, _, hb.size, hb.directory, hb.bytes, hb.run_eq⟩

def groups (p : Pass) (lines : Store.Stream) : List (List Bytes) :=
  Pass.deal p.planner (p.acceptAll lines.lines).1

theorem flatten_groups (h : (p.acceptAll lines.lines).2 = none) :
    (groups p lines).flatten = lines.lines := by
  rw [groups, Pass.flatten_deal, Pass.map_raw_acceptAll, Pass.map_raw_visits h]

def dealtTo (p : Pass) (lines : Store.Stream) (n : Nat) : Option Nat :=
  blockOf ((groups p lines).map List.length) n

theorem exists_dealtTo {n : Nat} (h : n < (p.acceptAll lines.lines).1.length) :
    ∃ k, dealtTo p lines n = some k :=
  ⟨_, Pass.blockOf_deal h⟩

theorem groups_ne_nil (p : Pass) (lines : Store.Stream) : groups p lines ≠ [] := by
  obtain ⟨front, last, h⟩ := Pass.exists_deal_eq p.planner (p.acceptAll lines.lines).1
  simp [groups, h]

def publication (s : Splitter) (t : FileTree) (p : Pass) (lines : Store.Stream) : Publication :=
  s.target.publish t (groups p lines)

def completed (s : Splitter) (t : FileTree) (log : Log) (p : Pass) (lines : Store.Stream) : Run :=
  let published := s.publication t p lines
  { outcome := .split
    phases := .init :: (published.phases ++ [.done])
    partitions := published.partitions
    log := log ++ (published.log ++ closing published.partitions)
    tree := published.tree
    splitter := s }

def broken (s : Splitter) (t : FileTree) (log : Log) (p : Pass) (lines : Store.Stream)
    (fault : SplitFault) : Run :=
  let published := s.publication t p lines
  { outcome := .failed fault
    phases := .init :: published.phases
    partitions := published.partitions
    log := log ++ published.log
    tree := published.tree
    splitter := s }

def lastPath (s : Splitter) (t : FileTree) (p : Pass) (lines : Store.Stream) : FilePath :=
  ((s.publication t p lines).partitions.getLast?.map Partition.path).getD s.source

theorem writeOut_of_unopened {fault : FileFault}
    (publishes : (s.publication t p lines).fault = some fault) :
    s.writeOut t log p lines = s.broken t log p lines (.access (s.lastPath t p lines) fault) := by
  unfold publication groups at publishes
  simp only [writeOut, publishes]
  rfl

theorem writeOut_of_rejected {rejection : Rejection}
    (publishes : (s.publication t p lines).fault = none)
    (accepts : (p.acceptAll lines.lines).2 = some rejection) :
    s.writeOut t log p lines = s.broken t log p lines (.line rejection) := by
  unfold publication groups at publishes
  simp only [writeOut, publishes, accepts]
  rfl

theorem writeOut_of_interrupted {fault : Gzip.Fault}
    (publishes : (s.publication t p lines).fault = none)
    (accepts : (p.acceptAll lines.lines).2 = none) (reads : lines.fault = some fault) :
    s.writeOut t log p lines = s.broken t log p lines (.stream fault) := by
  unfold publication groups at publishes
  simp only [writeOut, publishes, accepts, reads]
  rfl

theorem writeOut_of_complete (publishes : (s.publication t p lines).fault = none)
    (accepts : (p.acceptAll lines.lines).2 = none) (reads : lines.fault = none) :
    s.writeOut t log p lines = s.finish (s.completed t log p lines) := by
  unfold publication groups at publishes
  simp only [writeOut, publishes, accepts, reads]
  rfl

inductive Ending (s : Splitter) (t : FileTree) (log : Log) (p : Pass) (lines : Store.Stream)
    (r : Run) : Prop where
  | unopened (fault : FileFault) (publishes : (s.publication t p lines).fault = some fault)
      (run : r = s.broken t log p lines (.access (s.lastPath t p lines) fault)) :
      Ending s t log p lines r
  | rejected (rejection : Rejection) (publishes : (s.publication t p lines).fault = none)
      (accepts : (p.acceptAll lines.lines).2 = some rejection)
      (run : r = s.broken t log p lines (.line rejection)) : Ending s t log p lines r
  | interrupted (fault : Gzip.Fault) (publishes : (s.publication t p lines).fault = none)
      (accepts : (p.acceptAll lines.lines).2 = none) (reads : lines.fault = some fault)
      (run : r = s.broken t log p lines (.stream fault)) : Ending s t log p lines r
  | finished (publishes : (s.publication t p lines).fault = none)
      (accepts : (p.acceptAll lines.lines).2 = none) (reads : lines.fault = none)
      (run : r = s.finish (s.completed t log p lines)) : Ending s t log p lines r

theorem ending_writeOut (s : Splitter) (t : FileTree) (log : Log) (p : Pass)
    (lines : Store.Stream) : s.Ending t log p lines (s.writeOut t log p lines) := by
  cases hp : (s.publication t p lines).fault with
  | some fault => exact .unopened fault hp (writeOut_of_unopened hp)
  | none =>
    cases ha : (p.acceptAll lines.lines).2 with
    | some rejection => exact .rejected rejection hp ha (writeOut_of_rejected hp ha)
    | none =>
      cases hl : lines.fault with
      | some fault => exact .interrupted fault hp ha hl (writeOut_of_interrupted hp ha hl)
      | none => exact .finished hp ha hl (writeOut_of_complete hp ha hl)

theorem finish_partitions (s : Splitter) (r : Run) : (s.finish r).partitions = r.partitions := by
  unfold finish
  split
  · split <;> rfl
  · rfl

theorem writeOut_partitions (s : Splitter) (t : FileTree) (log : Log) (p : Pass)
    (lines : Store.Stream) :
    (s.writeOut t log p lines).partitions = (s.publication t p lines).partitions := by
  cases s.ending_writeOut t log p lines with
  | unopened fault publishes run => exact run ▸ rfl
  | rejected rejection publishes accepts run => exact run ▸ rfl
  | interrupted fault publishes accepts reads run => exact run ▸ rfl
  | finished publishes accepts reads run =>
    rw [run]
    exact s.finish_partitions _

theorem publication_complete (h : (s.publication t p lines).fault = none) :
    s.target.Writes t 1 (groups p lines) (s.publication t p lines).tree ∧
      (s.publication t p lines).partitions = s.target.filledFrom 1 (groups p lines) :=
  (s.target.published_publish t (groups p lines)).complete h

theorem course_publication (s : Splitter) (t : FileTree) (p : Pass) (lines : Store.Stream) :
    (s.publication t p lines).Course :=
  s.target.course_publish t (groups_ne_nil p lines)

theorem broken_phase (h : (s.publication t p lines).fault = none) (fault : SplitFault) :
    (s.broken t log p lines fault).phase = .streaming := by
  obtain ⟨n, -, hphases⟩ := (s.course_publication t p lines).exists_written h
  rw [Run.phase, broken, hphases, List.getLast?_cons_cons, Phase.getLast?_streaming_rotations]
  rfl

theorem holder_writeOut (s : Splitter) (t : FileTree) (log : Log) (p : Pass)
    (lines : Store.Stream) :
    ∃ count, ∀ n, Partition.holder (s.writeOut t log p lines).partitions n =
      (dealtTo p lines n).filter (· < count) := by
  rw [writeOut_partitions]
  exact (s.target.published_publish t (groups p lines)).holder

theorem lastPath_of_fault {fault : FileFault} (h : (s.publication t p lines).fault = some fault) :
    s.lastPath t p lines = s.target.path (s.publication t p lines).partitions.length := by
  obtain ⟨written, -, ⟨hnone, -⟩ | ⟨_, g, rest, -, -, -, hp⟩⟩ :=
    s.target.published_publish t (groups p lines)
  · exact absurd (h.symm.trans hnone) (by simp)
  · change (s.publication t p lines).partitions = _ at hp
    rw [lastPath, hp, List.getLast?_concat, List.length_append, List.length_singleton,
      Target.filledFrom, List.length_mapIdx, Nat.add_comm]
    rfl

def OpensAll (s : Splitter) (r : Run) : Prop :=
  ∀ index fault, r.outcome ≠ .failed (.access (s.target.path index) fault)

theorem holder_of_opensAll (h : s.OpensAll (s.writeOut t log p lines)) (n : Nat) :
    Partition.holder (s.writeOut t log p lines).partitions n = dealtTo p lines n := by
  have hfault : (s.publication t p lines).fault = none := by
    cases hf : (s.publication t p lines).fault with
    | none => rfl
    | some fault =>
      refine absurd ?_ (h (s.publication t p lines).partitions.length fault)
      rw [writeOut_of_unopened hf, lastPath_of_fault hf]
      rfl
  rw [writeOut_partitions, (publication_complete hfault).2, Partition.holder,
    Target.map_records_filledFrom, dealtTo]

theorem finish_tree (s : Splitter) (r : Run) :
    (s.finish r).tree = r.tree ∨
      (r.tree.remove s.source = .ok (s.finish r).tree ∧ s.settings.deleteSource = true ∧
        (s.finish r).outcome = r.outcome ∧ (s.finish r).phases = r.phases) := by
  unfold finish
  split
  next hd =>
    split
    next t' ht => exact .inr ⟨ht, hd, rfl, rfl⟩
    next => exact .inl rfl
  next => exact .inl rfl

theorem finish_outcome {r : Run} {bytes : Bytes} (h : r.tree.read s.source = .ok bytes) :
    (s.finish r).outcome = r.outcome := by
  obtain ⟨place, hl, hf⟩ := FileTree.read_eq_ok_iff_file.mp h
  have hr : r.tree.remove s.source = .ok (r.tree.erase place) :=
    FileTree.remove_eq_ok_iff.mpr ⟨place, bytes, hl, hf, rfl⟩
  unfold finish
  rw [hr]
  split <;> rfl

theorem writeOut_tree (s : Splitter) (t : FileTree) (log : Log) (p : Pass)
    (lines : Store.Stream) :
    (s.writeOut t log p lines).tree = (s.publication t p lines).tree ∨
      ((s.publication t p lines).tree.remove s.source = .ok (s.writeOut t log p lines).tree ∧
        s.settings.deleteSource = true ∧ (s.writeOut t log p lines).outcome = .split ∧
          (s.writeOut t log p lines).phase = .done) := by
  cases s.ending_writeOut t log p lines with
  | unopened fault publishes run => exact .inl (run ▸ rfl)
  | rejected rejection publishes accepts run => exact .inl (run ▸ rfl)
  | interrupted fault publishes accepts reads run => exact .inl (run ▸ rfl)
  | finished publishes accepts reads run =>
    rw [run]
    rcases s.finish_tree (s.completed t log p lines) with htree | ⟨hr, hd, ho, hp⟩
    · exact .inl htree
    · refine .inr ⟨hr, hd, ho, ?_⟩
      exact Run.phase_of_concat (.init :: (s.publication t p lines).phases) hp

theorem writeOut_split (h : (s.writeOut t log p lines).outcome = .split) :
    (p.acceptAll lines.lines).2 = none ∧ lines.fault = none ∧
      (s.publication t p lines).fault = none ∧
      ((s.writeOut t log p lines).tree = (s.publication t p lines).tree ∨
        (s.publication t p lines).tree.remove s.source =
          .ok (s.writeOut t log p lines).tree) := by
  have htree := (s.writeOut_tree t log p lines).imp id And.left
  cases s.ending_writeOut t log p lines with
  | unopened fault publishes run =>
    rw [run] at h
    cases h
  | rejected rejection publishes accepts run =>
    rw [run] at h
    cases h
  | interrupted fault publishes accepts reads run =>
    rw [run] at h
    cases h
  | finished publishes accepts reads run => exact ⟨accepts, reads, publishes, htree⟩

theorem writeOut_rejected {rejection : Rejection}
    (h : (s.writeOut t log p lines).outcome = .failed (.line rejection)) :
    (s.publication t p lines).fault = none ∧ (p.acceptAll lines.lines).2 = some rejection ∧
      s.writeOut t log p lines = s.broken t log p lines (.line rejection) := by
  cases s.ending_writeOut t log p lines with
  | unopened fault publishes run =>
    rw [run] at h
    cases h
  | rejected rejection' publishes accepts run =>
    rw [run] at h
    cases h
    exact ⟨publishes, accepts, run⟩
  | interrupted fault publishes accepts reads run =>
    rw [run] at h
    cases h
  | finished publishes accepts reads run =>
    rw [run] at h
    unfold finish at h
    split at h
    · split at h <;> cases h
    · cases h

theorem broken_ne_done (fault : SplitFault) : (s.broken t log p lines fault).phase ≠ .done := by
  have hlast := (s.course_publication t p lines).ne_done
  rw [Run.phase, broken, List.getLast?_cons]
  intro h
  cases hp : (s.publication t p lines).phases.getLast? with
  | none => simp [hp] at h
  | some last =>
    rw [hp] at h hlast
    exact hlast (congrArg some h)

theorem complete_of_done (h : (s.writeOut t log p lines).phase = .done) :
    (s.publication t p lines).fault = none ∧ (p.acceptAll lines.lines).2 = none ∧
      lines.fault = none := by
  cases s.ending_writeOut t log p lines with
  | unopened fault publishes run => exact absurd (run ▸ h) (broken_ne_done _)
  | rejected rejection publishes accepts run => exact absurd (run ▸ h) (broken_ne_done _)
  | interrupted fault publishes accepts reads run => exact absurd (run ▸ h) (broken_ne_done _)
  | finished publishes accepts reads run => exact ⟨publishes, accepts, reads⟩

theorem partitions_of_done (h : (s.writeOut t log p lines).phase = .done) :
    (s.writeOut t log p lines).partitions = s.target.filledFrom 1 (groups p lines) := by
  obtain ⟨hp, -, -⟩ := complete_of_done h
  rw [writeOut_partitions, (publication_complete hp).2]

end Splitter

end SubtreePartition
