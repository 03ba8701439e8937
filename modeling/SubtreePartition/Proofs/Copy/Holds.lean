import SubtreePartition.Proofs.Copy.Step
import SubtreePartition.Proofs.FileTree.Open
import SubtreePartition.Proofs.Partition.Course
import SubtreePartition.Proofs.Partition.Publish
import SubtreePartition.Proofs.Pass.Dealing
import SubtreePartition.Proofs.Pass.Visits

namespace SubtreePartition.Copy

variable {m : Medium} {g : Target} {p : Pass} {t₀ : FileTree} {x y : Copy} {raw : Bytes}
  {done : List Bytes} {items : List Item} {groups : List (List Bytes)}

def closedWith (g : Target) (x : Copy) (lines : List Bytes) : FileTree :=
  x.tree.put x.writer.place (.file (Store.encode g.compression lines.flatten))

/-- The partitions with the lines of `groups` are written, and the next one is open. Whatever it
gets, and whatever follows it, writing all at once comes to the same from here on. -/
structure Laid (g : Target) (t₀ : FileTree) (groups : List (List Bytes)) (x : Copy) : Prop where
  closed : x.closed.reverse = g.filledFrom 1 groups
  active : x.active = g.filled (groups.length + 1) x.writer.chunks.reverse
  path : x.writer.path = g.path (groups.length + 1)
  isOpen : x.writer.isOpen = true
  isWhole : x.writer.isTorn = false
  located : x.tree.locate x.writer.path = .ok x.writer.place
  file : x.tree.find? x.writer.place = some (.file [])
  phases : x.phases = Phase.rotations groups.length
  publishes : ∀ lines rest,
    let next := g.publishFrom (x.closedWith g lines) (g.filled (groups.length + 1) lines)
      groups.flatten.length rest
    g.publish t₀ (groups ++ lines :: rest) =
      { next with
        partitions := g.filledFrom 1 groups ++ g.filled (groups.length + 1) lines :: next.partitions
        phases := .streaming :: (x.phases ++ next.phases)
        log := x.log ++ next.log }

/-- The lines `done` have been copied. The passes over the source go on from here. -/
structure Holds (g : Target) (p : Pass) (t₀ : FileTree) (done : List Bytes) (items : List Item)
    (groups : List (List Bytes)) (x : Copy) : Prop extends Laid g t₀ groups x where
  lines : x.lines = done.length
  accepts : ∀ rest, p.acceptAll (done ++ rest) =
    (items ++ (p.acceptFrom [] x.ancestry rest).1, (p.acceptFrom [] x.ancestry rest).2)
  deals : ∀ more, Pass.deal p.planner (items ++ more) =
    Pass.dealFrom p.planner groups.reverse
      ⟨groups.length + 1, x.writer.chunks, x.active.size⟩ more

theorem Laid.index (h : Laid g t₀ groups x) : x.active.index = groups.length + 1 := by
  rw [h.active]
  rfl

theorem Laid.size (h : Laid g t₀ groups x) :
    x.active.size = Pass.octets x.writer.chunks.reverse := by
  rw [h.active, Pass.octets_eq]
  rfl

theorem holds_start {w : Writer} {t : FileTree} (p : Pass)
    (h : Writer.create m t₀ (g.path 1) = .ok (w, t)) :
    Holds g p t₀ [] [] [] { tree := t, active := g.opened 1, writer := w } := by
  obtain ⟨place, ho, rfl⟩ := Writer.create_eq_ok h
  obtain ⟨hl, hd, rfl⟩ := FileTree.openWriter_eq_ok ho
  have hp := FileTree.ne_nil_of_find?_ne hd
  exact
    { closed := rfl
      active := rfl
      path := rfl
      isOpen := rfl
      isWhole := rfl
      located := (FileTree.keepsDirectories_put hd _).locate hl
      file := by rw [FileTree.find?_put hp, if_pos rfl]
      phases := rfl
      publishes := by
        intro lines rest
        have hw : g.writeLines t₀ 1 lines =
            .ok (t₀.put place (.file (Store.encode g.compression lines.flatten))) := by
          rw [Target.writeLines, FileTree.write_eq_map_openWriter, ho]
          simp [Except.map, FileTree.put_put]
        simp only [List.nil_append, Target.publish, hw, closedWith, FileTree.put_put]
        rfl
      lines := rfl
      accepts := fun rest => by simp [Pass.acceptAll]
      deals := fun more => rfl }

theorem Laid.follow (h : Laid g t₀ groups x) (a : Ancestry) : Laid g t₀ groups (x.follow a) :=
  ⟨h.closed, h.active, h.path, h.isOpen, h.isWhole, h.located, h.file, h.phases, h.publishes⟩

theorem Laid.add (h : Laid g t₀ groups x) (raw : Bytes) : Laid g t₀ groups (x.add raw) where
  closed := h.closed
  active := by
    simp only [Copy.add, h.active, Target.filled, List.reverse_cons, List.flatten_append,
      List.length_append]
    simp
  path := h.path
  isOpen := h.isOpen
  isWhole := h.isWhole
  located := h.located
  file := h.file
  phases := h.phases
  publishes := h.publishes

theorem Laid.tree_turned (h : Laid g t₀ groups x) (m : Medium) :
    (x.turned m g).tree = x.closedWith g x.writer.chunks.reverse := by
  have hwhole : ¬ x.writer.isTorn = true := by simp [h.isWhole]
  simp only [turned, leave, Writer.content, if_neg hwhole, closedWith]

theorem Laid.closed_turned (h : Laid g t₀ groups x) (m : Medium) :
    (x.turned m g).closed.reverse = g.filledFrom 1 (groups ++ [x.writer.chunks.reverse]) := by
  rw [turned, List.reverse_cons, h.closed, h.active, g.filledFrom_concat, Nat.add_comm]

theorem Laid.publishes_turn {mid : FileTree} {lines : List Bytes} (h : Laid g t₀ groups x)
    (hlines : x.lines = groups.flatten.length + x.writer.chunks.length)
    (hw : g.writeLines (x.closedWith g x.writer.chunks.reverse) (groups.length + 1 + 1) lines =
      .ok mid) (rest : List (List Bytes)) :
    let groups' := groups ++ [x.writer.chunks.reverse]
    let last := g.filled (groups.length + 1 + 1) lines
    let next := g.publishFrom mid last groups'.flatten.length rest
    g.publish t₀ (groups' ++ lines :: rest) =
      { next with
        partitions := g.filledFrom 1 groups' ++ last :: next.partitions
        phases := .streaming :: (x.phases ++ .rotate :: .streaming :: next.phases)
        log := x.log ++ .partitionCreated x.active.path x.active.size ::
          .cutFound x.lines last.path :: next.log } := by
  intro groups' last next
  have hgroups : groups' ++ lines :: rest = groups ++ x.writer.chunks.reverse :: lines :: rest := by
    simp [groups']
  have hcount : groups.flatten.length + (g.filled (groups.length + 1)
      x.writer.chunks.reverse).records = groups'.flatten.length := by
    simp [groups', Target.filled]
  have hlines' : x.lines = groups'.flatten.length := by simp [groups', hlines]
  have hstep := Target.publishFrom_of_write
    (g.filled (groups.length + 1) x.writer.chunks.reverse) groups.flatten.length rest hw
  have hlast : g.filled ((g.filled (groups.length + 1) x.writer.chunks.reverse).index + 1) lines =
      last := rfl
  have hnext : g.publishFrom mid last groups'.flatten.length rest = next := rfl
  simp only [hlast, hcount, hnext] at hstep
  rw [hgroups, h.publishes, hstep, g.filledFrom_concat, h.active, hlines']
  simp [Nat.add_comm]

theorem Laid.turn {w : Writer} {t : FileTree} (h : Laid g t₀ groups x)
    (hlines : x.lines = groups.flatten.length + x.writer.chunks.length)
    (hw : Writer.create m (x.turned m g).tree (g.path (x.active.index + 1)) = .ok (w, t)) :
    Laid g t₀ (groups ++ [x.writer.chunks.reverse]) ((x.turned m g).begun w t) := by
  rw [h.tree_turned m, h.index] at hw
  obtain ⟨place, ho, rfl⟩ := Writer.create_eq_ok hw
  obtain ⟨hl, hd, rfl⟩ := FileTree.openWriter_eq_ok ho
  have hp := FileTree.ne_nil_of_find?_ne hd
  have hlen : (groups ++ [x.writer.chunks.reverse]).length = groups.length + 1 := by simp
  exact
    { closed := h.closed_turned m
      active := by
        rw [hlen]
        exact congrArg g.opened (congrArg (· + 1) h.index)
      path := by rw [hlen]; rfl
      isOpen := rfl
      isWhole := rfl
      located := (FileTree.keepsDirectories_put hd _).locate hl
      file := by
        show ((x.closedWith g x.writer.chunks.reverse).put place _).find? place = _
        rw [FileTree.find?_put hp, if_pos rfl]
      phases := by
        rw [hlen, ← Phase.rotations_concat, ← h.phases]
        simp [begun, turned]
      publishes := by
        intro lines rest
        have hwrite : g.writeLines (x.closedWith g x.writer.chunks.reverse)
            (groups.length + 1 + 1) lines =
              .ok ((x.closedWith g x.writer.chunks.reverse).put place
                (.file (Store.encode g.compression lines.flatten))) := by
          rw [Target.writeLines, FileTree.write_eq_map_openWriter, ho]
          simp [Except.map, FileTree.put_put]
        rw [h.publishes_turn hlines hwrite rest, hlen]
        simp [begun, turned, leave, h.index, closedWith, FileTree.put_put]
        rfl }

theorem Holds.acceptAll (h : Holds g p t₀ done items groups x) :
    p.acceptAll done = (items, none) := by
  simpa [Pass.acceptFrom] using h.accepts []

theorem Holds.deal (h : Holds g p t₀ done items groups x) :
    Pass.deal p.planner items = groups ++ [x.writer.chunks.reverse] := by
  simpa [Pass.dealFrom] using h.deals []

theorem Holds.raws (h : Holds g p t₀ done items groups x) : items.map Item.raw = done := by
  have hacc := h.acceptAll
  have hraw := p.map_raw_acceptAll done
  rw [Pass.map_raw_visits (by rw [hacc]), hacc] at hraw
  exact hraw

theorem Holds.flatten (h : Holds g p t₀ done items groups x) :
    groups.flatten ++ x.writer.chunks.reverse = done := by
  have hflat := Pass.flatten_deal p.planner items
  rw [h.deal, h.raws] at hflat
  simpa using hflat

theorem Holds.lines_eq (h : Holds g p t₀ done items groups x) :
    x.lines = groups.flatten.length + x.writer.chunks.length := by
  rw [h.lines, ← h.flatten, List.length_append, List.length_reverse]

theorem Holds.accepts_cons {a : Ancestry} {item : Item} (h : Holds g p t₀ done items groups x)
    (ha : p.accept x.ancestry raw = .ok (a, item)) (rest : List Bytes) :
    p.acceptAll (done ++ [raw] ++ rest) =
      (items ++ [item] ++ (p.acceptFrom [] a rest).1, (p.acceptFrom [] a rest).2) := by
  rw [List.append_assoc, List.singleton_append, h.accepts, Pass.acceptFrom_cons, ha]
  simp

theorem Holds.ready (h : Holds g p t₀ done items groups x) (r : Ready m g p x raw y) :
    ∃ groups' item, Laid g t₀ groups' y ∧
      Holds g p t₀ (done ++ [raw]) (items ++ [item]) groups' (y.add raw) := by
  cases r with
  | same a accepts uncut =>
    refine ⟨groups, _, h.follow a, (h.follow a).add raw, ?_, h.accepts_cons accepts, fun more => ?_⟩
    · simp [Copy.add, follow, h.lines]
    · have hdraft : p.planner.cut x.active.size (groups.length + 1 : Nat) a.categories = false :=
        h.index ▸ uncut
      rw [List.append_assoc, List.singleton_append, h.deals, Pass.dealFrom]
      simp only [hdraft]
      rfl
  | rotated a w t accepts cut closes creates =>
    have hturn := (h.follow a).turn h.lines_eq creates
    obtain ⟨place, -, rfl⟩ := Writer.create_eq_ok creates
    refine ⟨_, _, hturn, hturn.add raw, ?_, h.accepts_cons accepts, fun more => ?_⟩
    · simp [Copy.add, begun, turned, leave, follow, h.lines]
    · have hdraft : p.planner.cut x.active.size (groups.length + 1 : Nat) a.categories = true :=
        h.index ▸ cut
      rw [List.append_assoc, List.singleton_append, h.deals, Pass.dealFrom]
      simp only [hdraft, if_true, List.reverse_append, List.length_append]
      simp [Pass.Draft.start, Copy.add, begun, turned, follow, Target.opened]

theorem Holds.take (h : Holds g p t₀ done items groups x) (ht : x.take m g p raw = .ok y) :
    ∃ items' groups', Holds g p t₀ (done ++ [raw]) items' groups' y := by
  have htaken := take_taken m g p raw h.isOpen
  rw [ht] at htaken
  cases htaken with
  | written y ready =>
    obtain ⟨groups', item, -, hnext⟩ := h.ready ready
    exact ⟨_, _, hnext⟩

theorem Holds.foldlM (h : Holds g p t₀ done items groups x) (lines : List Bytes) :
    (∃ items' groups' y, lines.foldlM (Copy.take m g p) x = .ok y ∧
        Holds g p t₀ (done ++ lines) items' groups' y) ∨
      ∃ front raw back items' groups' y e, lines = front ++ raw :: back ∧
        front.foldlM (Copy.take m g p) x = .ok y ∧ Holds g p t₀ (done ++ front) items' groups' y ∧
        y.take m g p raw = .error e ∧ lines.foldlM (Copy.take m g p) x = .error e := by
  induction lines generalizing done items groups x with
  | nil => exact .inl ⟨items, groups, x, rfl, by simpa using h⟩
  | cons raw rest ih =>
    rw [List.foldlM_cons]
    cases ht : x.take m g p raw with
    | error e =>
      exact .inr ⟨[], raw, rest, items, groups, x, e, rfl, rfl, by simpa using h, ht, rfl⟩
    | ok y =>
      obtain ⟨items', groups', hy⟩ := h.take ht
      rcases ih hy with ⟨items'', groups'', z, hz, hholds⟩ |
        ⟨front, raw', back, items'', groups'', z, e, rfl, hcopied, hholds, hz, he⟩
      · exact .inl ⟨items'', groups'', z, hz, by simpa using hholds⟩
      · refine .inr ⟨raw :: front, raw', back, items'', groups'', z, e, rfl, ?_,
          by simpa using hholds, hz, he⟩
        rw [List.foldlM_cons, ht]
        exact hcopied

end SubtreePartition.Copy
