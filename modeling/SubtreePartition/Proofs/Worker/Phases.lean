import SubtreePartition.Proofs.Copy.Cut
import SubtreePartition.Proofs.Worker.Loop

namespace SubtreePartition

open Phase

namespace Worker

variable {m : Medium} {w : Worker} {s : Splitter} {t : FileTree} {p : Pass}
  {lines : Store.Stream} {start x : Copy} {done : List Bytes} {r : Reply} {n : Nat}

def AtCut (m : Medium) (s : Splitter) (t : FileTree) (done : List Bytes) (x : Copy) : Prop :=
  ∃ p lines start, Opens m s t p lines start ∧ Copy.AtCut m s.target p lines.lines start done x

def FailsToClose (m : Medium) (s : Splitter) (t : FileTree) (done : List Bytes) : Prop :=
  ∃ x refusal, AtCut m s t done x ∧ x.UnclosedAt m refusal

def FailsToOpen (m : Medium) (s : Splitter) (t : FileTree) (done : List Bytes) : Prop :=
  ∃ x fault, AtCut m s t done x ∧ x.UnopenedAt m s.target fault

def FailsToDelete (m : Medium) (s : Splitter) (t : FileTree) : Prop :=
  ∃ p lines start y fault, Opens m s t p lines start ∧
    Copy.ensureClosed m s.target.compression (start.takeAll m s.target p lines) = .ok y ∧
    s.settings.deleteSource = true ∧
    m.ask y.tree s.source .remove (y.tree.remove s.source) = .error fault

/-- How the phases of a call on `t` go together with what it gives back and leaves behind. -/
structure KeepsToPhases (m : Medium) (s : Splitter) (t : FileTree) (r : Reply) : Prop where
  last : r.2.phases.getLast? = some r.2.worker.phase
  returned : ∀ paths, r.1 = .ok paths → IsCourse r.2.phases
  failed : ∀ fault, r.1 = .error fault → ¬ FailsToDelete m s t → IsCutShort r.2.phases
  undeleted : FailsToDelete m s t → IsCourse r.2.phases
  skip_iff : r.2.worker.phase = .skip ↔ r.1 = .ok [s.source]
  skip_partitions : r.2.worker.phase = .skip → r.2.worker.partitions = []
  done_iff : r.2.worker.phase = .done ↔
    r.1 = .ok (r.2.worker.partitions.map Partition.path) ∨ FailsToDelete m s t
  init_iff : r.2.worker.phase = .init ↔ FailsBefore m s t
  rotate_iff : r.2.worker.phase = .rotate ↔
    (∃ done, FailsToOpen m s t done) ∨ ∃ done, FailsToClose m s t done
  unopened : ∀ done, FailsToOpen m s t done → ∃ groups, groups.flatten = done ∧
    Copy.Leaves s.target r.2.tree r.2.worker.partitions groups (s.target.opened (groups.length + 1))
  unclosed : ∀ done, FailsToClose m s t done → ∃ groups last, groups.flatten ++ last = done ∧
    Copy.Leaves s.target r.2.tree r.2.worker.partitions groups
      (s.target.filled (groups.length + 1) last)
  streaming_iff : r.2.worker.phase = .streaming ↔ (∃ fault, r.1 = .error fault) ∧
    ¬ FailsBefore m s t ∧ (¬ ∃ done, FailsToOpen m s t done) ∧
    (¬ ∃ done, FailsToClose m s t done) ∧ ¬ FailsToDelete m s t
  rotations : (¬ ∃ done, FailsToClose m s t done) →
    r.2.phases.count .rotate = r.2.worker.partitions.length - 1
  rotations_unclosed : (∃ done, FailsToClose m s t done) →
    r.2.phases.count .rotate = r.2.worker.partitions.length

inductive Halt (m : Medium) (s : Splitter) (t : FileTree) : Reply → Prop where
  | before (fails : FailsBefore m s t) (fault : SplitFault) (x : Call)
      (phases : x.phases = [.init]) (phase : x.worker.phase = .init)
      (partitions : x.worker.partitions = []) : Halt m s t (.error fault, x)
  | skipped (x : Call) (phases : x.phases = [.init, .skip]) (phase : x.worker.phase = .skip)
      (partitions : x.worker.partitions = []) : Halt m s t (.ok [s.source], x)
  | streaming (n : Nat) (fault : SplitFault) (x : Call)
      (phases : x.phases = .init :: .streaming :: rotations n) (phase : x.worker.phase = .streaming)
      (count : x.worker.partitions.length - 1 = n) : Halt m s t (.error fault, x)
  | unopened (done : List Bytes) (fails : FailsToOpen m s t done) (fault : SplitFault) (x : Call) :
      Halt m s t (.error fault, x)
  | unclosed (done : List Bytes) (fails : FailsToClose m s t done) (fault : SplitFault) (x : Call) :
      Halt m s t (.error fault, x)
  | undeleted (fails : FailsToDelete m s t) (fault : SplitFault) (x : Call) :
      Halt m s t (.error fault, x)
  | done (n : Nat) (x : Call) (phases : x.phases = .init :: .streaming :: (rotations n ++ [.done]))
      (phase : x.worker.phase = .done) (count : x.worker.partitions.length = n + 1)
      (paths : x.worker.partitions.map Partition.path ≠ [s.source]) :
      Halt m s t (.ok (x.worker.partitions.map Partition.path), x)

/-- What a call that stops in a rotation leaves behind. -/
structure StopsInRotation (g : Target) (r : Reply) (n : Nat) (groups : List (List Bytes))
    (last : Partition) : Prop where
  fails : ∃ fault, r.1 = .error fault
  phases : r.2.phases = .init :: .streaming :: (rotations n ++ [.rotate])
  phase : r.2.worker.phase = .rotate
  leaves : Copy.Leaves g r.2.tree r.2.worker.partitions groups last

theorem Opens.holds (h : Opens m s t p lines start)
    (hc : Copy.AtCut m s.target p lines.lines start done x) :
    ∃ t₀ items groups, Copy.Holds s.target p t₀ done items groups x := by
  cases h with
  | intro reaches directory reads creates => exact ⟨_, hc.holds creates⟩

theorem Opens.split_error {fault : SplitFault} {y : Copy} (h : Opens m w.task t p lines start)
    (he : Copy.ensureClosed m w.task.target.compression (start.takeAll m w.task.target p lines) =
      .error (fault, y)) :
    (w.split m t).1 = .error fault ∧
      (w.split m t).2.phases = .init :: .streaming :: y.phases ∧
      (w.split m t).2.worker.phase = y.phases.getLast?.getD .streaming ∧
      (w.split m t).2.worker.partitions = y.partitions ∧ (w.split m t).2.tree = y.tree := by
  obtain ⟨t', log, hsplit⟩ := h.split_eq
  have htarget : ((Call.starting w.task.resolved t' log).enter .streaming).worker.task.target =
      w.task.target := rfl
  rw [hsplit]
  simp only [Call.copy, htarget, he]
  exact ⟨rfl, rfl, rfl, rfl, rfl⟩

theorem stops_of_failsToOpen (h : FailsToOpen m w.task t done) :
    ∃ groups, groups.flatten = done ∧ groups ≠ [] ∧ StopsInRotation w.task.target (w.split m t)
      (groups.length - 1) groups (w.task.target.opened (groups.length + 1)) := by
  obtain ⟨x, fault, ⟨p, lines, start, hopens, hcut⟩, hun⟩ := h
  obtain ⟨t₀, items, groups, hholds⟩ := hopens.holds hcut
  obtain ⟨a, he⟩ := hcut.ended_unopened hholds.isOpen hun w.task.target.compression
  obtain ⟨hfails, hphases, hphase, hpartitions, htree⟩ := hopens.split_error he
  have hrotations : ((x.follow a).turned m w.task.target).phases =
      rotations groups.length ++ [.rotate] := congrArg (· ++ [Phase.rotate]) hholds.phases
  have hleaves := (hholds.toLaid.follow a).leaves_unopened m
  rw [hrotations] at hphases hphase
  refine ⟨groups ++ [x.writer.chunks.reverse], ?_, by simp, ⟨_, hfails⟩, ?_, ?_, ?_⟩
  · simpa using hholds.flatten
  · simpa using hphases
  · rw [hphase, List.getLast?_concat]
    rfl
  · rw [hpartitions, htree, List.length_append]
    exact hleaves

theorem stops_of_failsToClose (h : FailsToClose m w.task t done) :
    ∃ groups last, groups.flatten ++ last = done ∧ StopsInRotation w.task.target (w.split m t)
      groups.length groups (w.task.target.filled (groups.length + 1) last) := by
  obtain ⟨x, refusal, ⟨p, lines, start, hopens, hcut⟩, hun⟩ := h
  obtain ⟨t₀, items, groups, hholds⟩ := hopens.holds hcut
  obtain ⟨a, he⟩ := hcut.ended_unclosed hholds.isOpen hun w.task.target.compression
  obtain ⟨hfails, hphases, hphase, hpartitions, htree⟩ := hopens.split_error he
  have hrotations : (((x.follow a).enter .rotate).leave
      (m.remnant x.writer.path x.writer.chunks)).phases = rotations groups.length ++ [.rotate] :=
    congrArg (· ++ [Phase.rotate]) hholds.phases
  have hleaves := (hholds.toLaid.follow a).leaves_unclosed
    (m.remnant x.writer.path x.writer.chunks)
  rw [hrotations] at hphases hphase
  refine ⟨groups, x.writer.chunks.reverse, hholds.flatten, ⟨_, hfails⟩, hphases, ?_, ?_⟩
  · rw [hphase, List.getLast?_concat]
    rfl
  · rw [hpartitions, htree]
    exact hleaves

theorem finish_cases (m : Medium) (x : Call) :
    (∃ y, x.finish m = (.ok (x.worker.partitions.map Partition.path), y) ∧ y.phases = x.phases ∧
        y.worker = x.worker) ∨
      ∃ fault, x.worker.task.settings.deleteSource = true ∧
        m.ask x.tree x.worker.task.source .remove (x.tree.remove x.worker.task.source) =
          .error fault ∧
        x.finish m = (.error (.access x.worker.task.source fault), x) := by
  unfold Call.finish
  dsimp only
  split
  next hd =>
    split
    · exact .inl ⟨_, rfl, rfl, rfl⟩
    next fault hr => exact .inr ⟨fault, hd, hr, rfl⟩
  · exact .inl ⟨x, rfl, rfl, rfl⟩

def copied (s : Splitter) (t : FileTree) (log : Log) (y : Copy) : Call :=
  ((((Call.starting s t log).enter .streaming).absorb y).report
    [.partitionCreated y.active.path y.active.size, .lineCount y.lines]).enter .done

theorem Opens.split_ok {y : Copy} (h : Opens m w.task t p lines start)
    (he : Copy.ensureClosed m w.task.target.compression (start.takeAll m w.task.target p lines) =
      .ok y) :
    ∃ t' log, w.split m t = (copied w.task.resolved t' log y).finish m := by
  obtain ⟨t', log, hsplit⟩ := h.split_eq
  have htarget : ((Call.starting w.task.resolved t' log).enter .streaming).worker.task.target =
      w.task.target := rfl
  refine ⟨t', log, ?_⟩
  rw [hsplit]
  simp only [Call.copy, htarget, he]
  rfl

theorem Opens.ended (h : Opens m s t p lines start) :
    Copy.Ended m s.target p lines.lines start
      (Copy.ensureClosed m s.target.compression (start.takeAll m s.target p lines)) := by
  cases h with
  | intro reaches directory reads creates => exact Copy.ended_takeAll _ _ creates

theorem phases_copied {y : Copy} (s : Splitter) (t : FileTree) (log : Log)
    (h : y.phases = rotations n) :
    (copied s t log y).phases = .init :: .streaming :: (rotations n ++ [.done]) := by
  rw [← h]
  rfl

theorem done_of_failsToDelete (h : FailsToDelete m w.task t) :
    ∃ n fault, (w.split m t).1 = .error fault ∧ (w.split m t).2.worker.phase = .done ∧
      (w.split m t).2.phases = .init :: .streaming :: (rotations n ++ [.done]) ∧
      (w.split m t).2.worker.partitions.length = n + 1 := by
  obtain ⟨p, lines, start, y, fault, hopens, hy, hd, hr⟩ := h
  obtain ⟨t', log, hsplit⟩ := hopens.split_ok hy
  have hended := hopens.ended
  rw [hy] at hended
  cases hended with
  | finished n y phases count paths =>
    have hfinish : (copied w.task.resolved t' log y).finish m =
        (.error (.access w.task.source fault), copied w.task.resolved t' log y) := by
      have hd' : (copied w.task.resolved t' log y).worker.task.settings.deleteSource = true := hd
      have hr' : m.ask (copied w.task.resolved t' log y).tree
          (copied w.task.resolved t' log y).worker.task.source .remove
          ((copied w.task.resolved t' log y).tree.remove
            (copied w.task.resolved t' log y).worker.task.source) = .error fault := hr
      simp only [Call.finish, hd', if_true, hr']
      rfl
    rw [hsplit, hfinish]
    exact ⟨n, _, rfl, rfl, phases_copied _ _ _ phases, count⟩

theorem halt_of_opens (h : Opens m w.task t p lines start) :
    Halt m w.task t (w.split m t) := by
  have hended := h.ended
  cases he : Copy.ensureClosed m w.task.target.compression
      (start.takeAll m w.task.target p lines) with
  | error e =>
    obtain ⟨fault, y⟩ := e
    obtain ⟨hfails, hphases, hphase, hpartitions, -⟩ := h.split_error he
    have hr : w.split m t = (.error fault, (w.split m t).2) := Prod.ext hfails rfl
    rw [he] at hended
    rw [hr]
    cases hended with
    | broken n fault y phases count =>
      refine .streaming n fault _ (phases ▸ hphases) ?_ (by rw [hpartitions, count]; rfl)
      have hlast := getLast?_streaming_rotations n
      rw [List.getLast?_cons] at hlast
      rw [hphase, phases]
      exact Option.some.inj hlast
    | unclosed done x refusal fault y atCut unclosed =>
      exact .unclosed done ⟨x, refusal, ⟨p, lines, start, h, atCut⟩, unclosed⟩ fault _
    | unopened done x cause fault y atCut unopened =>
      exact .unopened done ⟨x, cause, ⟨p, lines, start, h, atCut⟩, unopened⟩ fault _
  | ok y =>
    obtain ⟨t', log, hsplit⟩ := h.split_ok he
    rw [he] at hended
    cases hended with
    | finished n y phases count paths =>
      have hpaths : y.partitions.map Partition.path ≠ [w.task.source] := by
        intro heq
        have hmem : w.task.source ∈ y.partitions.map Partition.path := by simp [heq]
        obtain ⟨q, hq, hsource⟩ := List.mem_map.mp hmem
        obtain ⟨index, hindex⟩ := paths q hq
        exact w.task.target.path_ne_source index (hindex.symm.trans hsource)
      rcases finish_cases m (copied w.task.resolved t' log y) with
        ⟨x, hx, hxphases, hxworker⟩ | ⟨fault, hd, hr, hx⟩
      · rw [hsplit, hx, ← hxworker]
        refine .done n x (hxphases.trans (phases_copied _ _ _ phases)) ?_ ?_ ?_
        · rw [hxworker]
          rfl
        · rw [hxworker]
          exact count
        · rw [hxworker]
          exact hpaths
      · rw [hsplit, hx]
        exact .undeleted ⟨p, lines, start, y, fault, h, he, hd, hr⟩ _ _

theorem halt (m : Medium) (w : Worker) (t : FileTree) : Halt m w.task t (w.split m t) := by
  have hcame := w.came m t
  generalize hr : w.split m t = r at hcame
  cases hcame with
  | before fails fault x phases phase partitions =>
    exact .before fails fault x phases phase partitions
  | skipped x phases phase partitions => exact .skipped x phases phase partitions
  | unopened fault x phases phase partitions =>
    exact .streaming 0 fault x phases phase (by omega)
  | opened t' log opens => exact hr ▸ halt_of_opens opens

structure Tells (m : Medium) (s : Splitter) (t : FileTree) (r : Reply) : Prop where
  before : FailsBefore m s t → r.2.worker.phase = .init
  unopened : ∀ done, FailsToOpen m s t done → ∃ groups, groups.flatten = done ∧ groups ≠ [] ∧
    StopsInRotation s.target r (groups.length - 1) groups (s.target.opened (groups.length + 1))
  unclosed : ∀ done, FailsToClose m s t done → ∃ groups last, groups.flatten ++ last = done ∧
    StopsInRotation s.target r groups.length groups (s.target.filled (groups.length + 1) last)
  undeleted : FailsToDelete m s t → ∃ n fault, r.1 = .error fault ∧ r.2.worker.phase = .done ∧
    r.2.phases = .init :: .streaming :: (rotations n ++ [.done]) ∧
    r.2.worker.partitions.length = n + 1

namespace Tells

variable (h : Tells m s t r)
include h

theorem rotate_of_failsToOpen (hf : ∃ done, FailsToOpen m s t done) :
    r.2.worker.phase = .rotate := by
  obtain ⟨done, hf⟩ := hf
  obtain ⟨groups, -, -, hstops⟩ := h.unopened done hf
  exact hstops.phase

theorem rotate_of_failsToClose (hf : ∃ done, FailsToClose m s t done) :
    r.2.worker.phase = .rotate := by
  obtain ⟨done, hf⟩ := hf
  obtain ⟨groups, last, -, hstops⟩ := h.unclosed done hf
  exact hstops.phase

theorem rotate_of_failsToTurn
    (hf : (∃ done, FailsToOpen m s t done) ∨ ∃ done, FailsToClose m s t done) :
    r.2.worker.phase = .rotate :=
  hf.elim h.rotate_of_failsToOpen h.rotate_of_failsToClose

theorem done_of_failsToDelete (hf : FailsToDelete m s t) : r.2.worker.phase = .done := by
  obtain ⟨n, fault, -, hphase, -⟩ := h.undeleted hf
  exact hphase

theorem count_of_failsToClose (hf : ∃ done, FailsToClose m s t done) :
    r.2.phases.count .rotate = r.2.worker.partitions.length := by
  obtain ⟨done, hf⟩ := hf
  obtain ⟨groups, last, -, hstops⟩ := h.unclosed done hf
  rw [hstops.phases, hstops.leaves.partitions]
  simp [count_rotate_rotations, Target.filledFrom]

theorem count_of_failsToOpen (hf : ∃ done, FailsToOpen m s t done) :
    r.2.phases.count .rotate = r.2.worker.partitions.length - 1 := by
  obtain ⟨done, hf⟩ := hf
  obtain ⟨groups, -, hne, hstops⟩ := h.unopened done hf
  have hpos := List.length_pos_iff.mpr hne
  rw [hstops.phases, hstops.leaves.partitions]
  simp [count_rotate_rotations, Target.filledFrom]
  omega

theorem keepsToPhases_of_failed (hfails : ∃ fault, r.1 = .error fault)
    (hlast : r.2.phases.getLast? = some r.2.worker.phase)
    (hphase : r.2.worker.phase = .init ∨ r.2.worker.phase = .streaming ∨
      r.2.worker.phase = .rotate)
    (hcut : IsCutShort r.2.phases) (hinit : r.2.worker.phase = .init → FailsBefore m s t)
    (hrotate : r.2.worker.phase = .rotate →
      (∃ done, FailsToOpen m s t done) ∨ ∃ done, FailsToClose m s t done)
    (hcount : (¬ ∃ done, FailsToClose m s t done) →
      r.2.phases.count .rotate = r.2.worker.partitions.length - 1) :
    KeepsToPhases m s t r := by
  obtain ⟨fault, hfault⟩ := hfails
  have hskip : r.2.worker.phase ≠ .skip := by rcases hphase with hp | hp | hp <;> simp [hp]
  have hundone : r.2.worker.phase ≠ .done := by rcases hphase with hp | hp | hp <;> simp [hp]
  have hdelete : ¬ FailsToDelete m s t := mt h.done_of_failsToDelete hundone
  have hinit_iff : r.2.worker.phase = .init ↔ FailsBefore m s t := ⟨hinit, h.before⟩
  have hrotate_iff := Iff.intro hrotate h.rotate_of_failsToTurn
  exact
    { last := hlast
      returned := by simp [hfault]
      failed := fun _ _ _ => hcut
      undeleted := fun hd => absurd hd hdelete
      skip_iff := iff_of_false hskip (by simp [hfault])
      skip_partitions := fun hs => absurd hs hskip
      done_iff := iff_of_false hundone (by simp [hfault, hdelete])
      init_iff := hinit_iff
      rotate_iff := hrotate_iff
      unopened := fun done hd => by
        obtain ⟨groups, hgroups, -, hstops⟩ := h.unopened done hd
        exact ⟨groups, hgroups, hstops.leaves⟩
      unclosed := fun done hd => by
        obtain ⟨groups, last, hgroups, hstops⟩ := h.unclosed done hd
        exact ⟨groups, last, hgroups, hstops.leaves⟩
      streaming_iff := by
        constructor
        · intro hs
          exact ⟨⟨fault, hfault⟩, mt h.before (by simp [hs]),
            mt h.rotate_of_failsToOpen (by simp [hs]), mt h.rotate_of_failsToClose (by simp [hs]),
            hdelete⟩
        · rintro ⟨-, hb, ho, hc, -⟩
          rcases hphase with hp | hp | hp
          · exact absurd (hinit hp) hb
          · exact hp
          · exact absurd (hrotate hp) (not_or.mpr ⟨ho, hc⟩)
      rotations := hcount
      rotations_unclosed := h.count_of_failsToClose }

theorem keepsToPhases_of_rotation {groups : List (List Bytes)} {last : Partition}
    (hstops : StopsInRotation s.target r n groups last)
    (hf : (∃ done, FailsToOpen m s t done) ∨ ∃ done, FailsToClose m s t done)
    (hcount : (¬ ∃ done, FailsToClose m s t done) →
      r.2.phases.count .rotate = r.2.worker.partitions.length - 1) :
    KeepsToPhases m s t r := by
  have hlast := getLast?_rotations_concat n .rotate
  exact h.keepsToPhases_of_failed hstops.fails (by rw [hstops.phases, hstops.phase, hlast])
    (.inr (.inr hstops.phase)) (hstops.phases ▸ isCutShort_rotate n) (by simp [hstops.phase])
    (fun _ => hf) hcount

theorem keepsToPhases_of_skipped (hr : r.1 = .ok [s.source]) (hphases : r.2.phases = [.init, .skip])
    (hphase : r.2.worker.phase = .skip) (hpartitions : r.2.worker.partitions = []) :
    KeepsToPhases m s t r := by
  have hdelete : ¬ FailsToDelete m s t := mt h.done_of_failsToDelete (by simp [hphase])
  have hopen := mt h.rotate_of_failsToOpen (by simp [hphase])
  have hclose := mt h.rotate_of_failsToClose (by simp [hphase])
  exact
    { last := by rw [hphases, hphase]; rfl
      returned := fun _ _ => hphases ▸ .skipped
      failed := by simp [hr]
      undeleted := fun hd => absurd hd hdelete
      skip_iff := iff_of_true hphase hr
      skip_partitions := fun _ => hpartitions
      done_iff := iff_of_false (by simp [hphase]) (by simp [hr, hpartitions, hdelete])
      init_iff := iff_of_false (by simp [hphase]) (mt h.before (by simp [hphase]))
      rotate_iff := iff_of_false (by simp [hphase]) (not_or.mpr ⟨hopen, hclose⟩)
      unopened := fun done hd => absurd ⟨done, hd⟩ hopen
      unclosed := fun done hd => absurd ⟨done, hd⟩ hclose
      streaming_iff := iff_of_false (by simp [hphase]) (by simp [hr])
      rotations := fun _ => by rw [hphases, hpartitions]; rfl
      rotations_unclosed := h.count_of_failsToClose }

theorem keepsToPhases_of_done
    (hr : r.1 = .ok (r.2.worker.partitions.map Partition.path) ∨ FailsToDelete m s t)
    (hphases : r.2.phases = .init :: .streaming :: (rotations n ++ [.done]))
    (hphase : r.2.worker.phase = .done) (hcount : r.2.worker.partitions.length = n + 1)
    (hpaths : r.1 ≠ .ok [s.source]) : KeepsToPhases m s t r := by
  have hopen := mt h.rotate_of_failsToOpen (by simp [hphase])
  have hclose := mt h.rotate_of_failsToClose (by simp [hphase])
  have hcourse : IsCourse r.2.phases := hphases ▸ .split n
  exact
    { last := by rw [hphases, hphase, getLast?_rotations_concat]
      returned := fun _ _ => hcourse
      failed := by
        intro fault hf hd
        rw [hf] at hr
        simp [hd] at hr
      undeleted := fun _ => hcourse
      skip_iff := iff_of_false (by simp [hphase]) hpaths
      skip_partitions := by simp [hphase]
      done_iff := iff_of_true hphase hr
      init_iff := iff_of_false (by simp [hphase]) (mt h.before (by simp [hphase]))
      rotate_iff := iff_of_false (by simp [hphase]) (not_or.mpr ⟨hopen, hclose⟩)
      unopened := fun done hd => absurd ⟨done, hd⟩ hopen
      unclosed := fun done hd => absurd ⟨done, hd⟩ hclose
      streaming_iff := by
        refine iff_of_false (by simp [hphase]) ?_
        rintro ⟨⟨fault, hf⟩, -, -, -, hd⟩
        rw [hf] at hr
        simp [hd] at hr
      rotations := fun _ => by rw [hphases, hcount]; simp [count_rotate_rotations]
      rotations_unclosed := fun hc => absurd hc hclose }

theorem keepsToPhases_of_halt (hh : Halt m s t r) : KeepsToPhases m s t r := by
  cases hh with
  | before fails fault x phases phase partitions =>
    exact h.keepsToPhases_of_failed ⟨fault, rfl⟩ (by rw [phases, phase]; rfl) (.inl phase)
      (phases ▸ isCutShort_init) (fun _ => fails) (by simp [phase])
      (fun _ => by rw [phases, partitions]; rfl)
  | skipped x phases phase partitions =>
    exact h.keepsToPhases_of_skipped rfl phases phase partitions
  | streaming n fault x phases phase count =>
    refine h.keepsToPhases_of_failed ⟨fault, rfl⟩ ?_ (.inr (.inl phase))
      (phases ▸ isCutShort_streaming n) (by simp [phase]) (by simp [phase]) (fun _ => ?_)
    · rw [phases, phase, List.getLast?_cons_cons, getLast?_streaming_rotations]
    · rw [phases, count]
      simp [count_rotate_rotations]
  | unopened done fails fault x =>
    obtain ⟨groups, -, -, hstops⟩ := h.unopened done fails
    exact h.keepsToPhases_of_rotation hstops (.inl ⟨done, fails⟩)
      (fun _ => h.count_of_failsToOpen ⟨done, fails⟩)
  | unclosed done fails fault x =>
    obtain ⟨groups, last, -, hstops⟩ := h.unclosed done fails
    exact h.keepsToPhases_of_rotation hstops (.inr ⟨done, fails⟩)
      (fun hn => absurd ⟨done, fails⟩ hn)
  | undeleted fails fault x =>
    obtain ⟨n, _, -, hphase, hphases, hcount⟩ := h.undeleted fails
    exact h.keepsToPhases_of_done (.inr fails) hphases hphase hcount nofun
  | done n x phases phase count paths =>
    exact h.keepsToPhases_of_done (.inl rfl) phases phase count
      (fun he => paths (Except.ok.inj he))

end Tells

/-- A call goes through the phases in their order. A rotation can stop it at the closing of the
partition that is full, and at the opening of the next one. -/
theorem split_keepsToPhases (m : Medium) (w : Worker) (t : FileTree) :
    KeepsToPhases m w.task t (w.split m t) := by
  have htells : Tells m w.task t (w.split m t) :=
    ⟨split_of_failsBefore, fun _ => stops_of_failsToOpen, fun _ => stops_of_failsToClose,
      Worker.done_of_failsToDelete⟩
  exact htells.keepsToPhases_of_halt (w.halt m t)

def mediumOfFull : Medium :=
  { refuses := fun _ _ demand =>
      match demand with
      | .close _ => some ⟨28, "No space left on device"⟩
      | _ => none }

def treeOfUnclosed : FileTree :=
  { nodes := [(["store"], .file (Utf8.encode "/a|{}\n/b|{}\n"))] }

def splitterOfUnclosed : Splitter :=
  { source := ⟨1, ["store"]⟩
    settings :=
      { workDir := ⟨1, ["out"]⟩
        minSplitSize := 0
        thresholdOverride := some 0
        compression := .none }
    boundaries := .fixed .empty }

/-- The first rotation fails while the phase is that of a rotation, no further partition is there,
and the one that is there has a line. -/
theorem not_rotations_full :
    let r := (new splitterOfUnclosed).split mediumOfFull treeOfUnclosed
    r.1 = .error (.transfer (splitterOfUnclosed.target.path 1) ⟨28, "No space left on device"⟩) ∧
      r.2.phases = [.init, .streaming, .rotate] ∧ r.2.worker.phase = .rotate ∧
      r.2.worker.partitions.map (fun q => (q.index, q.size, q.records)) = [(1, 6, 1)] ∧
      r.2.phases.count .rotate ≠ r.2.worker.partitions.length - 1 := by
  decide +kernel

end Worker

end SubtreePartition
