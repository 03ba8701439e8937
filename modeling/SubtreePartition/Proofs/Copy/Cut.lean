import SubtreePartition.Proofs.Copy.Holds
import SubtreePartition.Proofs.Partition.Contents

namespace SubtreePartition

open Phase

namespace Copy

variable {m : Medium} {g : Target} {p : Pass} {t₀ t : FileTree} {x y start : Copy} {w : Writer}
  {raw : Bytes} {done : List Bytes} {items : List Item} {groups : List (List Bytes)}
  {lines : Store.Stream} {refusal : Refusal} {fault : FileFault}

inductive AtCut (m : Medium) (g : Target) (p : Pass) (lines : List Bytes) (start : Copy)
    (done : List Bytes) (x : Copy) : Prop where
  | intro (raw : Bytes) (rest : List Bytes) (a : Ancestry) (isNext : lines = done ++ raw :: rest)
      (copied : done.foldlM (take m g p) start = .ok x)
      (reads : m.refuses x.tree g.source (.readLine x.lines) = none)
      (accepts : p.accept x.ancestry raw = .ok (a, ⟨raw, a.categories⟩))
      (cut : p.planner.cut x.active.size x.active.index a.categories = true)

def UnclosedAt (m : Medium) (x : Copy) (refusal : Refusal) : Prop :=
  m.refuses x.tree x.writer.path (.close x.writer.chunks) = some refusal

def UnopenedAt (m : Medium) (g : Target) (x : Copy) (fault : FileFault) : Prop :=
  m.refuses x.tree x.writer.path (.close x.writer.chunks) = none ∧
    Writer.create m (x.turned m g).tree (g.path (x.active.index + 1)) = .error fault

inductive Ended (m : Medium) (g : Target) (p : Pass) (lines : List Bytes) (start : Copy) :
    Step → Prop where
  | broken (n : Nat) (fault : SplitFault) (y : Copy) (phases : y.phases = rotations n)
      (count : y.partitions.length = n + 1) : Ended m g p lines start (.error (fault, y))
  | unclosed (done : List Bytes) (x : Copy) (refusal : Refusal) (fault : SplitFault) (y : Copy)
      (atCut : AtCut m g p lines start done x) (unclosed : x.UnclosedAt m refusal) :
      Ended m g p lines start (.error (fault, y))
  | unopened (done : List Bytes) (x : Copy) (cause : FileFault) (fault : SplitFault) (y : Copy)
      (atCut : AtCut m g p lines start done x) (unopened : x.UnopenedAt m g cause) :
      Ended m g p lines start (.error (fault, y))
  | finished (n : Nat) (y : Copy) (phases : y.phases = rotations n)
      (count : y.partitions.length = n + 1)
      (paths : ∀ q ∈ y.partitions, ∃ index, q.path = g.path index) : Ended m g p lines start (.ok y)

theorem close_cases (m : Medium) (c : Compression) (x : Copy) :
    (∃ y, x.close m c = .ok y ∧ y.phases = x.phases ∧ y.partitions = x.partitions) ∨
      ∃ fault y, x.close m c = .error (fault, y) ∧ y.phases = x.phases ∧
        y.partitions = x.partitions := by
  unfold close
  split
  · split
    · exact .inr ⟨_, _, rfl, rfl, rfl⟩
    · exact .inl ⟨_, rfl, rfl, rfl⟩
  · exact .inl ⟨x, rfl, rfl, rfl⟩

theorem ended_error {lines : List Bytes} {n : Nat} (c : Compression) (fault : SplitFault)
    (hphases : x.phases = rotations n) (hcount : x.partitions.length = n + 1) :
    Ended m g p lines start (ensureClosed m c (.error (fault, x))) := by
  rcases x.close_cases m c with ⟨y, hy, hp, hq⟩ | ⟨fault', y, hy, hp, hq⟩ <;>
    simp only [ensureClosed, hy, bind, Except.bind] <;>
    exact .broken n _ y (hp.trans hphases) (hq ▸ hcount)

theorem Laid.partitions (h : Laid g t₀ groups x) :
    x.partitions = g.filledFrom 1 (groups ++ [x.writer.chunks.reverse]) := by
  rw [Copy.partitions, h.closed, h.active, g.filledFrom_concat, Nat.add_comm]

theorem Laid.count (h : Laid g t₀ groups x) : x.partitions.length = groups.length + 1 := by
  rw [Copy.partitions, h.closed, Target.filledFrom]
  simp

theorem Laid.path_of_mem (h : Laid g t₀ groups x) :
    ∀ q ∈ x.partitions, ∃ index, q.path = g.path index := by
  intro q hq
  rw [h.partitions] at hq
  obtain ⟨index, group, -, rfl⟩ := Target.exists_filled_of_mem hq
  exact ⟨index, rfl⟩

theorem Laid.ended_ok {lines : List Bytes} (h : Laid g t₀ groups x) (c : Compression) :
    Ended m g p lines start (ensureClosed m c (.ok x)) := by
  rcases x.close_cases m c with ⟨y, hy, hp, hq⟩ | ⟨fault, y, hy, hp, hq⟩ <;>
    simp only [ensureClosed, hy]
  · exact .finished _ y (hp.trans h.phases) (hq ▸ h.count) (hq ▸ h.path_of_mem)
  · exact .broken _ fault y (hp.trans h.phases) (hq ▸ h.count)

theorem takeAll_error {e : SplitFault × Copy} (h : lines.lines.foldlM (take m g p) x = .error e) :
    x.takeAll m g p lines = .error e := by
  simp only [takeAll, h, bind, Except.bind]

theorem takeAll_unread (h : lines.lines.foldlM (take m g p) x = .ok y)
    (hr : m.refuses y.tree g.source (.readLine y.lines) = some refusal) :
    x.takeAll m g p lines = .error (.transfer g.source refusal, y) := by
  simp only [takeAll, h, bind, Except.bind, pull, hr]

theorem takeAll_ok (h : lines.lines.foldlM (take m g p) x = .ok y)
    (hr : m.refuses y.tree g.source (.readLine y.lines) = none) :
    x.takeAll m g p lines =
      match lines.fault with
      | some fault => .error (.stream fault, y)
      | none => .ok y := by
  have hpull : y.pull m g.source = .ok y := by rw [pull, hr]
  cases hl : lines.fault <;> simp only [takeAll, h, hpull, hl, bind, Except.bind]

theorem ended_takeAll (c : Compression) (lines : Store.Stream)
    (hw : Writer.create m t₀ (g.path 1) = .ok (w, t)) :
    let start : Copy := { tree := t, active := g.opened 1, writer := w }
    Ended m g p lines.lines start (ensureClosed m c (start.takeAll m g p lines)) := by
  intro start
  rcases (holds_start p hw).foldlM lines.lines (m := m) with
    ⟨items, groups, y, hy, hholds⟩ |
    ⟨front, raw, back, items, groups, y, e, hlines, hcopied, hholds, he, hy⟩
  · cases hr : m.refuses y.tree g.source (.readLine y.lines) with
    | some refusal =>
      rw [takeAll_unread hy hr]
      exact ended_error c _ hholds.phases hholds.count
    | none =>
      rw [takeAll_ok hy hr]
      cases lines.fault with
      | some fault => exact ended_error c _ hholds.phases hholds.count
      | none => exact hholds.ended_ok c
  · rw [takeAll_error hy]
    have htaken := take_taken m g p raw hholds.isOpen
    rw [he] at htaken
    cases htaken with
    | unread refusal refuses => exact ended_error c _ hholds.phases hholds.count
    | rejected rejection a rejects => exact ended_error c _ hholds.phases hholds.count
    | unclosed a refusal reads accepts cut refuses =>
      have hcut : AtCut m g p lines.lines start front y :=
        .intro raw back a hlines hcopied reads accepts cut
      exact .unclosed front y refusal _ _ hcut refuses
    | unopened a fault reads accepts cut closes fails =>
      have hcut : AtCut m g p lines.lines start front y :=
        .intro raw back a hlines hcopied reads accepts cut
      exact .unopened front y fault _ _ hcut ⟨closes, fails⟩
    | unwritten z refusal ready refuses =>
      obtain ⟨groups', item, hlaid, -⟩ := hholds.ready ready
      exact ended_error c _ hlaid.phases hlaid.count

theorem AtCut.holds {lines : List Bytes}
    (h : AtCut m g p lines { tree := t, active := g.opened 1, writer := w } done x)
    (hw : Writer.create m t₀ (g.path 1) = .ok (w, t)) :
    ∃ items groups, Holds g p t₀ done items groups x := by
  cases h with
  | intro raw rest a isNext copied reads accepts cut =>
    rcases (holds_start p hw).foldlM done (m := m) with
      ⟨items, groups, y, hy, hholds⟩ | ⟨_, _, _, _, _, _, e, _, _, _, _, he⟩
    · obtain rfl : x = y := Except.ok.inj (copied.symm.trans hy)
      exact ⟨items, groups, by simpa using hholds⟩
    · rw [copied] at he
      cases he

theorem AtCut.takeAll_error (h : AtCut m g p lines.lines start done x) :
    ∃ a, ∀ e, (x.follow a).rotate m g = .error e → start.takeAll m g p lines = .error e := by
  cases h with
  | intro raw rest a isNext copied reads accepts cut =>
    refine ⟨a, fun e he => Copy.takeAll_error ?_⟩
    have htrack : x.track p raw = .ok (x.follow a) := by
      rcases track_cases p x raw with ⟨rejection, a', ha, -⟩ | ⟨a', ha, ht⟩
      · rw [accepts] at ha
        cases ha
      · rw [accepts] at ha
        cases ha
        exact ht
    have hcut : (x.follow a).isCut p = true := cut
    have htake : x.take m g p raw = .error e := by
      simp only [take, pull, reads, bind, Except.bind, htrack, hcut, if_true, he]
    rw [isNext, List.foldlM_append, copied]
    simp only [bind, Except.bind, List.foldlM_cons, htake]

theorem AtCut.ended_unclosed (h : AtCut m g p lines.lines start done x)
    (ho : x.writer.isOpen = true) (hc : x.UnclosedAt m refusal) (c : Compression) :
    ∃ a, ensureClosed m c (start.takeAll m g p lines) =
      .error (.transfer x.writer.path refusal,
        ((x.follow a).enter .rotate).leave (m.remnant x.writer.path x.writer.chunks)) := by
  obtain ⟨a, ha⟩ := h.takeAll_error
  refine ⟨a, ?_⟩
  rcases (x.follow a).rotate_cases m g ho with ⟨refusal', hr, hrot⟩ | ⟨hr, -⟩
  · obtain rfl : refusal = refusal' := Option.some.inj (hc.symm.trans hr)
    rw [ha _ hrot]
    rfl
  · exact absurd (hc.symm.trans hr) nofun

theorem AtCut.ended_unopened (h : AtCut m g p lines.lines start done x)
    (ho : x.writer.isOpen = true) (hc : x.UnopenedAt m g fault) (c : Compression) :
    ∃ a, ensureClosed m c (start.takeAll m g p lines) =
      .error (.access (g.path (x.active.index + 1)) fault, (x.follow a).turned m g) := by
  obtain ⟨a, ha⟩ := h.takeAll_error
  refine ⟨a, ?_⟩
  obtain ⟨hcloses, hfails⟩ := hc
  rcases (x.follow a).rotate_cases m g ho with
    ⟨refusal, hr, -⟩ | ⟨-, ⟨fault', hw, hrot⟩ | ⟨w, t, hw, -⟩⟩
  · exact absurd (hcloses.symm.trans hr) nofun
  · obtain rfl : fault = fault' := Except.error.inj (hfails.symm.trans hw)
    rw [ha _ hrot]
    rfl
  · exact absurd (hfails.symm.trans hw) nofun

theorem Laid.publish (h : Laid g t₀ groups x) :
    g.publish t₀ (groups ++ [x.writer.chunks.reverse]) =
      { tree := x.closedWith g x.writer.chunks.reverse
        partitions := x.partitions
        phases := .streaming :: x.phases
        log := x.log } := by
  rw [h.publishes, h.partitions, g.filledFrom_concat, Nat.add_comm]
  simp [Target.publishFrom]

theorem Laid.writes (h : Laid g t₀ groups x) :
    g.Writes t₀ 1 (groups ++ [x.writer.chunks.reverse]) (x.closedWith g x.writer.chunks.reverse) := by
  have hpub := (g.published_publish t₀ (groups ++ [x.writer.chunks.reverse])).complete
  rw [h.publish] at hpub
  exact (hpub rfl).1

structure Leaves (g : Target) (t : FileTree) (partitions : List Partition)
    (groups : List (List Bytes)) (last : Partition) : Prop where
  partitions : partitions = g.filledFrom 1 groups ++ [last]
  complete : g.contentsOf t (g.filledFrom 1 groups) = groups.map fun lines => some lines.flatten

theorem Laid.leaves_unopened (h : Laid g t₀ groups x) (m : Medium) :
    Leaves g (x.turned m g).tree (x.turned m g).partitions (groups ++ [x.writer.chunks.reverse])
      (g.opened (groups.length + 2)) where
  partitions := by
    rw [Copy.partitions, h.closed_turned, turned, h.index]
  complete := by
    rw [h.tree_turned]
    exact h.writes.contentsOf

theorem Laid.leaves_unclosed (h : Laid g t₀ groups x) (content : Bytes) :
    Leaves g (x.leave content).tree x.partitions groups
      (g.filled (groups.length + 1) x.writer.chunks.reverse) where
  partitions := by rw [h.partitions, g.filledFrom_concat, Nat.add_comm]
  complete := by
    have hfile : ∃ before, x.tree.find? x.writer.place = some (.file before) := ⟨_, h.file⟩
    obtain ⟨before, hf⟩ := hfile
    have hne := FileTree.ne_nil_of_find?_ne (by rw [hf]; nofun)
    have hplace : (x.closedWith g x.writer.chunks.reverse).locate (g.path (1 + groups.length)) =
        .ok x.writer.place := by
      rw [Nat.add_comm, ← h.path, closedWith, FileTree.locate_put_file hne hf]
      exact h.located
    have hcontents := h.writes.contentsOf_put_last hplace content
    rw [closedWith, FileTree.put_put] at hcontents
    exact hcontents

end Copy

end SubtreePartition
