import SubtreePartition.Proofs.Copy.Cut
import SubtreePartition.Proofs.Worker.Loop

namespace SubtreePartition

def Run.reply (r : Run) : Reply :=
  (match r.outcome with
    | .failed fault => .error fault
    | _ => .ok r.paths,
    { worker := { task := r.splitter, phase := r.phase, partitions := r.partitions }
      tree := r.tree
      phases := r.phases
      log := r.log })

namespace Copy

variable {m : Medium} {g : Target} {p : Pass} {t₀ : FileTree} {x y : Copy} {raw : Bytes}
  {done : List Bytes} {items : List Item} {groups : List (List Bytes)}

theorem Laid.close_sound (h : Laid g t₀ groups x) :
    x.close .sound g.compression =
      .ok (x.leave (Store.encode g.compression x.writer.chunks.reverse.flatten)) := by
  have hwhole : ¬ x.writer.isTorn = true := by simp [h.isWhole]
  simp only [close, h.isOpen, if_true, Medium.sound, Writer.content, if_neg hwhole]

theorem writeLines_of_create {t : FileTree} {index : Nat} {fault : FileFault}
    (h : Writer.create .sound t (g.path index) = .error fault) (lines : List Bytes) :
    g.writeLines t index lines = .error fault := by
  rw [Writer.create, Medium.ask_sound] at h
  rw [Target.writeLines, FileTree.write_eq_map_openWriter]
  cases ho : t.openWriter (g.path index) with
  | error cause =>
    rw [ho] at h
    cases h
    rfl
  | ok opened =>
    rw [ho] at h
    cases h

theorem Laid.publish_unopened {fault : FileFault} {lines : List Bytes} (h : Laid g t₀ groups x)
    (hw : Writer.create .sound (x.turned .sound g).tree (g.path (x.active.index + 1)) = .error fault)
    (rest : List (List Bytes)) :
    g.publish t₀ (groups ++ x.writer.chunks.reverse :: lines :: rest) =
      { tree := (x.turned .sound g).tree
        partitions := (x.turned .sound g).partitions
        phases := .streaming :: (x.turned .sound g).phases
        log := (x.turned .sound g).log
        fault := some fault } := by
  have hpartitions : (x.turned .sound g).partitions =
      g.filledFrom 1 groups ++ [g.filled (groups.length + 1) x.writer.chunks.reverse,
        g.opened (groups.length + 1 + 1)] := by
    rw [Copy.partitions, h.closed_turned, g.filledFrom_concat, turned, h.index, Nat.add_comm 1]
    simp
  have hwrite : g.writeLines (x.closedWith g x.writer.chunks.reverse)
      ((g.filled (groups.length + 1) x.writer.chunks.reverse).index + 1) lines = .error fault := by
    rw [h.tree_turned, h.index] at hw
    exact writeLines_of_create hw lines
  rw [h.publishes, Target.publishFrom_of_fault _ _ rest hwrite, hpartitions, h.tree_turned, turned,
    h.active]
  rfl

def published (x : Copy) (fault : Option FileFault) : Publication :=
  ⟨x.tree, x.partitions, .streaming :: x.phases, x.log, fault⟩

inductive Ends (s : Splitter) (p : Pass) (t : FileTree) (log : Log) (lines : Store.Stream) :
    Step → Prop where
  | broken (fault : SplitFault) (stop : Option FileFault) (y : Copy)
      (publishes : s.publication t p lines = y.published stop)
      (run : s.writeOut t log p lines = s.broken t log p lines fault) :
      Ends s p t log lines (.error (fault, y))
  | finished (y : Copy) (publishes : s.publication t p lines = y.published none)
      (run : s.writeOut t log p lines = s.finish (s.completed t log p lines))
      (count : y.lines = (y.partitions.map Partition.records).sum) :
      Ends s p t log lines (.ok y)

variable {s : Splitter} {log : Log} {lines : Store.Stream}

theorem Laid.publication (h : Laid s.target t₀ groups x) (p : Pass) (lines : Store.Stream)
    (hd : Pass.deal p.planner (p.acceptAll lines.lines).1 = groups ++ [x.writer.chunks.reverse]) :
    s.publication t₀ p lines =
      (x.leave (Store.encode s.target.compression x.writer.chunks.reverse.flatten)).published none := by
  rw [Splitter.publication, Splitter.groups, hd, h.publish]
  rfl

theorem Holds.ends (h : Holds s.target p t₀ lines.lines items groups x) :
    Ends s p t₀ log lines (ensureClosed .sound s.target.compression
      (match lines.fault with
        | some fault => .error (.stream fault, x)
        | none => .ok x)) := by
  have hpub := h.publication p lines (by rw [h.acceptAll, h.deal])
  have hfault : (s.publication t₀ p lines).fault = none := by rw [hpub]; rfl
  have haccept : (p.acceptAll lines.lines).2 = none := by rw [h.acceptAll]
  cases hl : lines.fault with
  | some fault =>
    simp only [ensureClosed, h.close_sound, bind, Except.bind]
    exact .broken _ none _ hpub (Splitter.writeOut_of_interrupted hfault haccept hl)
  | none =>
    simp only [ensureClosed, h.close_sound]
    refine .finished _ hpub (Splitter.writeOut_of_complete hfault haccept hl) ?_
    have hparts : (x.leave (Store.encode s.target.compression
        x.writer.chunks.reverse.flatten)).partitions = x.partitions := rfl
    have hlines : (x.leave (Store.encode s.target.compression
        x.writer.chunks.reverse.flatten)).lines = x.lines := rfl
    rw [hparts, hlines, h.partitions, Target.map_records_filledFrom, ← List.length_flatten]
    simpa using h.lines_eq

theorem Holds.ends_rejected {back : List Bytes} {rejection : Rejection}
    (h : Holds s.target p t₀ done items groups x) (hlines : lines.lines = done ++ raw :: back)
    (hr : p.accept x.ancestry raw = .error rejection) (a : Ancestry) :
    Ends s p t₀ log lines
      (ensureClosed .sound s.target.compression (.error (.line rejection, x.follow a))) := by
  have haccept : p.acceptAll lines.lines = (items, some rejection) := by
    rw [hlines, h.accepts, Pass.acceptFrom, hr]
    simp
  have hlaid := h.toLaid.follow a
  have hpub := hlaid.publication p lines (by rw [haccept]; exact h.deal)
  have hfault : (s.publication t₀ p lines).fault = none := by rw [hpub]; rfl
  simp only [ensureClosed, hlaid.close_sound, bind, Except.bind]
  exact .broken _ none _ hpub (Splitter.writeOut_of_rejected hfault (by rw [haccept]))

theorem Holds.ends_unopened {back : List Bytes} {a : Ancestry} {fault : FileFault}
    (h : Holds s.target p t₀ done items groups x) (hlines : lines.lines = done ++ raw :: back)
    (ha : p.accept x.ancestry raw = .ok (a, ⟨raw, a.categories⟩))
    (hcut : p.planner.cut x.active.size x.active.index a.categories = true)
    (hw : Writer.create .sound (x.turned .sound s.target).tree
      (s.target.path (x.active.index + 1)) = .error fault) :
    Ends s p t₀ log lines (ensureClosed .sound s.target.compression
      (.error (.access (s.target.path (x.active.index + 1)) fault,
        (x.follow a).turned .sound s.target))) := by
  have hclosed : ((x.follow a).turned .sound s.target).writer.isOpen = false := rfl
  obtain ⟨next, rest, hdeal⟩ : ∃ next rest, Pass.deal p.planner (p.acceptAll lines.lines).1 =
      groups ++ x.writer.chunks.reverse :: next :: rest := by
    have hdraft : p.planner.cut x.active.size (groups.length + 1 : Nat) a.categories = true :=
      h.index ▸ hcut
    rw [hlines, h.accepts, Pass.acceptFrom_cons, ha]
    simp only [h.deals, Pass.dealFrom, hdraft, if_true]
    obtain ⟨next, rest, hd⟩ := Pass.exists_dealFrom_eq p.planner
      (x.writer.chunks.reverse :: groups.reverse) (.start (groups.length + 1 + 1) raw)
      (p.acceptFrom [] a back).1
    exact ⟨next, rest, by simpa using hd⟩
  have hpub : s.publication t₀ p lines =
      ((x.follow a).turned .sound s.target).published (some fault) := by
    rw [Splitter.publication, Splitter.groups, hdeal]
    exact (h.toLaid.follow a).publish_unopened hw rest
  have hlast : s.lastPath t₀ p lines = s.target.path (x.active.index + 1) := by
    rw [Splitter.lastPath, hpub, published, partitions, List.getLast?_concat]
    rfl
  have hrun : s.writeOut t₀ log p lines =
      s.broken t₀ log p lines (.access (s.lastPath t₀ p lines) fault) :=
    Splitter.writeOut_of_unopened (by rw [hpub]; rfl)
  rw [hlast] at hrun
  simp only [ensureClosed, close, hclosed, bind, Except.bind]
  exact .broken _ _ _ hpub hrun

theorem ends_takeAll {w : Writer} {t : FileTree} (log : Log) (p : Pass) (lines : Store.Stream)
    (hw : Writer.create .sound t₀ (s.target.path 1) = .ok (w, t)) :
    Ends s p t₀ log lines (ensureClosed .sound s.target.compression
      (takeAll .sound s.target p { tree := t, active := s.target.opened 1, writer := w } lines)) := by
  rcases (holds_start p hw).foldlM lines.lines (m := .sound) with
    ⟨items, groups, y, hy, hholds⟩ |
    ⟨front, raw, back, items, groups, y, e, hlines, -, hholds, he, hy⟩
  · have hreads : Medium.sound.refuses y.tree s.target.source (.readLine y.lines) = none := rfl
    rw [takeAll_ok hy hreads]
    exact hholds.ends
  · rw [takeAll_error hy]
    have htaken := take_taken .sound s.target p raw hholds.isOpen
    rw [he] at htaken
    rw [List.nil_append] at hholds
    cases htaken with
    | unread refusal refuses => cases refuses
    | rejected rejection a rejects => exact hholds.ends_rejected hlines rejects a
    | unclosed a refusal reads accepts cut refuses => cases refuses
    | unopened a fault reads accepts cut closes fails =>
      exact hholds.ends_unopened hlines accepts cut fails
    | unwritten z refusal ready refuses => cases refuses

end Copy

namespace Call

variable {s : Splitter} {t t' : FileTree} {log : Log} {p : Pass} {lines : Store.Stream}

theorem fail_absorb {y : Copy} {stop : Option FileFault} (t' : FileTree) (fault : SplitFault)
    (h : s.publication t p lines = y.published stop) :
    ((((starting s t' log).enter .streaming).absorb y).fail fault) =
      (s.broken t log p lines fault).reply := by
  simp only [absorb, fail, starting, enter, Splitter.broken, Run.reply, Run.phase, h,
    Copy.published, List.getLast?_cons, Option.getD_some]
  rfl

theorem finish_absorb {y : Copy} (t' : FileTree) (h : s.publication t p lines = y.published none)
    (hc : y.lines = (y.partitions.map Partition.records).sum) :
    finish .sound (((((starting s t' log).enter .streaming).absorb y).report
      [.partitionCreated y.active.path y.active.size, .lineCount y.lines]).enter .done) =
      (s.finish (s.completed t log p lines)).reply := by
  have hlast : y.partitions.getLast? = some y.active := List.getLast?_concat
  have hclosing : Splitter.closing y.partitions =
      [.partitionCreated y.active.path y.active.size, .lineCount y.lines] := by
    rw [Splitter.closing, hlast, hc]
    rfl
  have hdone : (Phase.streaming :: (y.phases ++ [.done])).getLast?.getD .init = .done := by
    rw [← List.cons_append, List.getLast?_concat]
    rfl
  unfold finish Splitter.finish
  have hremove : ∀ t : FileTree, Medium.sound.ask t s.source .remove (t.remove s.source) =
      t.remove s.source := fun t => Medium.ask_sound ..
  simp only [Splitter.completed, h, Copy.published, hclosing, enter, report, absorb, starting,
    hremove]
  split
  · cases y.tree.remove s.source with
    | ok tree => simp [Run.reply, Run.phase, Run.paths, hdone]
    | error fault => simp [Run.reply, Run.phase, fail, hdone]
  · simp [Run.reply, Run.phase, Run.paths, hdone]

theorem copy_sound {w : Writer} (hw : Writer.create .sound t (s.target.path 1) = .ok (w, t')) :
    ((starting s t log).enter .streaming).copy .sound p lines
        { tree := t', active := s.target.opened 1, writer := w } =
      (s.writeOut t log p lines).reply := by
  have hends := Copy.ends_takeAll log p lines hw
  have htarget : ((starting s t log).enter .streaming).worker.task.target = s.target := rfl
  cases he : Copy.ensureClosed .sound s.target.compression (Copy.takeAll .sound s.target p
      { tree := t', active := s.target.opened 1, writer := w } lines) with
  | error e =>
    rw [he] at hends
    cases hends with
    | broken fault stop y publishes run =>
      rw [run, ← fail_absorb t fault publishes]
      simp only [copy, htarget, he]
  | ok y =>
    rw [he] at hends
    cases hends with
    | finished y publishes run count =>
      rw [run, ← finish_absorb t publishes count]
      simp only [copy, htarget, he]

theorem writeOut_unopened {fault : FileFault}
    (hw : Writer.create .sound t (s.target.path 1) = .error fault) :
    s.writeOut t log p lines = ⟨.failed (.access (s.target.path 1) fault), [.init, .streaming],
      [s.target.opened 1], log, t, s⟩ := by
  obtain ⟨group, rest, hgroups⟩ := List.exists_cons_of_ne_nil (Splitter.groups_ne_nil p lines)
  have hpub : s.publication t p lines =
      ⟨t, [s.target.opened 1], [.streaming], [], some fault⟩ := by
    rw [Splitter.publication, hgroups]
    simp only [Target.publish, Copy.writeLines_of_create hw]
  have hfault : (s.publication t p lines).fault = some fault := by rw [hpub]
  rw [Splitter.writeOut_of_unopened hfault, Splitter.broken, Splitter.lastPath, hpub]
  simp only [List.append_nil]
  rfl

theorem stream_sound : (starting s t log).stream .sound p = (s.stream t log p).reply := by
  rw [Worker.stream_eq, Medium.ask_sound, Splitter.stream]
  cases t.read s.source with
  | error fault => rfl
  | ok bytes =>
    cases hw : Writer.create .sound t (s.target.path 1) with
    | ok opened => exact copy_sound hw
    | error fault =>
      simp only [writeOut_unopened hw]
      rfl

theorem partitionInto_sound :
    (starting s t log).partitionInto .sound p = (s.partitionInto t log p).reply := by
  have hmake : makeDirectories .sound t s.settings.workDir =
      t.makeDirectories s.settings.workDir := rfl
  rw [Worker.partitionInto_eq, Splitter.partitionInto, hmake]
  rcases t.makeDirectories s.settings.workDir with ⟨t', _ | fault⟩
  · exact stream_sound
  · cases hf : fault.isSystem <;> simp only [hf] <;> rfl

theorem plan_sound (s : Splitter) (t : FileTree) (size : Nat) :
    (starting s t []).plan .sound size = (s.runSized t size).reply := by
  rw [Worker.plan_eq, Splitter.runSized]
  cases Splitter.isUnnecessary s.settings (Splitter.threshold s.settings size) with
  | true => rfl
  | false =>
    cases hb : Splitter.isBaseProtected s.settings s.boundaries.resolve.1 with
    | some base =>
      simp only [hb]
      rfl
    | none =>
      simp only [hb]
      exact partitionInto_sound

end Call

/-- Over a sound medium a worker does what a run does, whatever it has done before. -/
theorem Worker.split_sound (w : Worker) (t : FileTree) :
    w.split .sound t = (w.task.run t).reply := by
  rw [Worker.split_eq, measure, Splitter.run]
  cases Store.size w.task.settings.compression t w.task.source with
  | error fault => cases fault <;> rfl
  | ok size => exact Call.plan_sound w.task t size

end SubtreePartition
