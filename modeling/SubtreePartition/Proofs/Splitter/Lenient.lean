import SubtreePartition.Proofs.Pass.Lenient
import SubtreePartition.Proofs.Splitter.Commute
import SubtreePartition.Proofs.Splitter.Compression
import SubtreePartition.Proofs.Splitter.Frame
import SubtreePartition.Proofs.Splitter.Prefix
import SubtreePartition.Proofs.Splitter.Skip

namespace SubtreePartition

namespace Target

variable {g : Target} {t : FileTree} {front more : List (List Bytes)} {last extra : List Bytes}
  {fault : FileFault}

theorem writeLines_error {index : Nat} (h : g.writeLines t index last = .error fault)
    (lines : List Bytes) : g.writeLines t index lines = .error fault := by
  unfold writeLines FileTree.write at h ⊢
  cases hl : t.locate (g.path index) with
  | error fault' =>
    rw [hl] at h
    exact h
  | ok l =>
    simp only [hl, bind, Except.bind] at h ⊢
    split at h
    next => exact h
    next => cases h

theorem publishFrom_append_of_fault {closed : Partition} {line : Nat}
    (h : (g.publishFrom t closed line (front ++ [last])).fault = some fault) :
    g.publishFrom t closed line (front ++ (last ++ extra) :: more) =
      g.publishFrom t closed line (front ++ [last]) := by
  induction front generalizing t closed line with
  | nil =>
    rw [List.nil_append, List.nil_append, publishFrom, publishFrom]
    cases hw : g.writeLines t (closed.index + 1) last with
    | error fault' => rw [writeLines_error hw]
    | ok t' => simp [publishFrom, hw] at h
  | cons lines rest ih =>
    rw [List.cons_append, publishFrom] at h
    rw [List.cons_append, List.cons_append, publishFrom, publishFrom]
    cases hw : g.writeLines t (closed.index + 1) lines with
    | error fault' => rfl
    | ok t' =>
      rw [hw] at h
      simp only
      rw [ih h]

theorem publish_append_of_fault (h : (g.publish t (front ++ [last])).fault = some fault) :
    g.publish t (front ++ (last ++ extra) :: more) = g.publish t (front ++ [last]) := by
  cases front with
  | nil =>
    rw [List.nil_append, List.nil_append, publish, publish]
    cases hw : g.writeLines t 1 last with
    | error fault' => rw [writeLines_error hw]
    | ok t' => simp [publish, publishFrom, hw] at h
  | cons lines rest =>
    rw [List.cons_append, publish] at h
    rw [List.cons_append, List.cons_append, publish, publish]
    cases hw : g.writeLines t 1 lines with
    | error fault' => rfl
    | ok t' =>
      rw [hw] at h
      simp only
      rw [publishFrom_append_of_fault h]

end Target

namespace Splitter

variable {s : Splitter} {t t' : FileTree} {log : Log} {p : Pass} {lines : Store.Stream}
  {size : Nat} {bytes : Bytes}

def withOrder (s : Splitter) (strict : Bool) : Splitter :=
  { s with settings := { s.settings with strictOrder := strict } }

theorem groups_lenient (p : Pass) (lines : Store.Stream) :
    p.lenient.acceptAll lines.lines = p.acceptAll lines.lines ∨
      ∃ u front last extra more, (p.acceptAll lines.lines).2 = some (.unsorted u) ∧
        groups p lines = front ++ [last] ∧
          groups p.lenient lines = front ++ (last ++ extra) :: more := by
  rcases p.acceptAll_lenient lines.lines with hsame | ⟨u, later, hu, hlater⟩
  · exact .inl hsame
  · obtain ⟨front, last, hd⟩ := Pass.exists_deal_eq p.planner (p.acceptAll lines.lines).1
    obtain ⟨extra, more, hmore⟩ := Pass.deal_append hd later
    exact .inr ⟨u, front, last, extra, more, hu, hd, by rw [groups, hlater]; exact hmore⟩

theorem writeOut_lenient (s : Splitter) (t : FileTree) (log : Log) (p : Pass)
    (lines : Store.Stream) :
    (∃ u, (s.writeOut t log p lines).outcome = .failed (.line (.unsorted u))) ∨
      s.writeOut t log p.lenient lines = s.writeOut t log p lines := by
  rcases groups_lenient p lines with hsame | ⟨u, front, last, extra, more, hu, hstrict, hlenient⟩
  · have hplanner : p.lenient.planner = p.planner := rfl
    exact .inr (by simp only [writeOut, hsame, hplanner])
  · cases hp : (s.publication t p lines).fault with
    | none =>
      refine .inl ⟨u, ?_⟩
      simp [writeOut_eq, stopsWith, hp, hu, broken]
    | some fault =>
      right
      have hpub : s.publication t p.lenient lines = s.publication t p lines := by
        rw [publication, hstrict] at hp
        rw [publication, publication, hstrict, hlenient, Target.publish_append_of_fault hp]
      simp [writeOut_eq, stopsWith, broken, lastPath, hpub, hp]

theorem inStep_withOrder (s : Splitter) (order order' : Bool) :
    (s.withOrder order).InStep Eq Eq (s.withOrder order') where
  source := rfl
  deleteSource := rfl
  target :=
    { path := rfl
      write := by
        rintro t _ k lines rfl
        cases hw : (s.withOrder order).target.writeLines t (k + 1) lines with
        | error fault => exact .inl ⟨fault, rfl, hw⟩
        | ok t' => exact .inr ⟨t', t', rfl, hw, rfl⟩ }
  remove := by
    rintro t _ rfl
    cases hr : t.remove (s.withOrder order).source with
    | error fault => exact .inl ⟨fault, rfl, rfl⟩
    | ok t' => exact .inr ⟨t', t', rfl, rfl, rfl⟩
  weaken := fun _ _ h => h

theorem inStep_stop_withOrder (s : Splitter) (t : FileTree) (outcome : Outcome)
    (phases : List Phase) (log : Log) :
    ((s.withOrder true).stop t outcome phases log).InStep Eq
      ((s.withOrder false).stop t outcome phases log) :=
  ⟨rfl, rfl, rfl, rfl, rfl, rfl⟩

theorem partitionInto_withOrder (s : Splitter) (t : FileTree) (log : Log) (p : Pass) :
    (∃ u, ((s.withOrder true).partitionInto t log p).outcome = .failed (.line (.unsorted u))) ∨
      ((s.withOrder true).partitionInto t log p).InStep Eq
        ((s.withOrder false).partitionInto t log p.lenient) := by
  have hw (order : Bool) : (s.withOrder order).settings.workDir = s.settings.workDir := rfl
  have hs (order : Bool) : (s.withOrder order).source = s.source := rfl
  have hc (order : Bool) :
      (s.withOrder order).settings.compression = s.settings.compression := rfl
  simp only [partitionInto, hw]
  rcases t.makeDirectories s.settings.workDir with ⟨t', _ | fault⟩
  · simp only [stream, hs, hc]
    cases t'.read s.source with
    | error fault => exact .inr (s.inStep_stop_withOrder t' _ _ _)
    | ok bytes =>
      have hstep := (s.inStep_withOrder true false).writeOut (t := t') rfl log p.lenient
        (Store.stream s.loss s.settings.compression bytes)
      rcases (s.withOrder true).writeOut_lenient t' log p
        (Store.stream s.loss s.settings.compression bytes) with hu | hsame
      · exact .inl hu
      · rw [hsame] at hstep
        exact .inr hstep
  · right
    simp only
    split
    · exact s.inStep_stop_withOrder t' _ _ _
    · exact s.inStep_stop_withOrder t' _ _ _

theorem run_withOrder (s : Splitter) (t : FileTree) :
    (∃ u, ((s.withOrder true).run t).outcome = .failed (.line (.unsorted u))) ∨
      ((s.withOrder true).run t).InStep Eq ((s.withOrder false).run t) := by
  have hs (order : Bool) : (s.withOrder order).source = s.source := rfl
  have hc (order : Bool) :
      (s.withOrder order).settings.compression = s.settings.compression := rfl
  cases hsize : Store.size s.settings.compression t s.source with
  | error fault =>
    simp only [run, hs, hc, hsize]
    cases fault <;> exact .inr (s.inStep_stop_withOrder t _ _ _)
  | ok size =>
    have hsize' (order : Bool) : Store.size (s.withOrder order).settings.compression t
        (s.withOrder order).source = .ok size := hsize
    by_cases hn : s.IsNeedless size
    · have hn' (order : Bool) : (s.withOrder order).IsNeedless size := hn
      rw [run_of_needless (hsize' true) (hn' true), run_of_needless (hsize' false) (hn' false)]
      exact .inr (s.inStep_stop_withOrder t _ _ _)
    · have hn' (order : Bool) : ¬ (s.withOrder order).IsNeedless size := hn
      by_cases hb : s.ProtectsBase
      · obtain ⟨base, hbase⟩ := hb
        have hsome := isBaseProtected_eq_some_iff.mpr hbase
        have hsome' (order : Bool) : isBaseProtected (s.withOrder order).settings
          (s.withOrder order).boundaries.resolve.1 = some base := hsome
        rw [run_of_base (hsize' true) (hn' true) (hsome' true),
          run_of_base (hsize' false) (hn' false) (hsome' false)]
        exact .inr (s.resolved.inStep_stop_withOrder t _ _ _)
      · have hb' (order : Bool) : ¬ (s.withOrder order).ProtectsBase := hb
        rw [run_of_unprotected (hsize' true) (hn' true) (hb' true),
          run_of_unprotected (hsize' false) (hn' false) (hb' false)]
        exact s.resolved.partitionInto_withOrder t _ _

theorem Begins.withOrder {order : Bool} (h : (s.withOrder order).Begins t size t' bytes)
    (order' : Bool) : (s.withOrder order').Begins t size t' bytes :=
  ⟨h.size, h.necessary, h.base, h.directory, h.bytes⟩

/-- The run `r` over a pass has been stopped at line `j`, and `r'` has gone on from there: with more
lines in the last of the partitions, and with more partitions after it. -/
structure GoesOn (s : Splitter) (t : FileTree) (p : Pass) (u : Unsorted) (r r' : Run)
    (content : Bytes) (j : Nat) (front : List (List Bytes)) (last extra : List Bytes)
    (more : List (List Bytes)) : Prop where
  stored : Store.contentAt s.settings.compression t s.source = some content
  accepts : (p.acceptAll ((Store.lines content).take j)).2 = none
  refuses : (p.acceptAll ((Store.lines content).take (j + 1))).2 = some (.unsorted u)
  before : (front ++ [last]).flatten = (Store.lines content).take j
  whole : (front ++ (last ++ extra) :: more).flatten = Store.lines content
  partitions : r.partitions = s.target.filledFrom 1 (front ++ [last])
  partitions' : r'.partitions = s.target.filledFrom 1 (front ++ (last ++ extra) :: more)
  contents : s.target.contentsOf r.tree r.partitions =
    (front ++ [last]).map fun g => some g.flatten
  contents' : s.target.contentsOf r'.tree r'.partitions =
    (front ++ (last ++ extra) :: more).map fun g => some g.flatten
  held : ∀ n < j, Partition.holder r'.partitions n = Partition.holder r.partitions n

theorem split_of_not_failed
    (h : ∀ fault, (s.writeOut t log p lines).outcome ≠ .failed fault) :
    (s.writeOut t log p lines).outcome = .split := by
  cases ho : (s.writeOut t log p lines).outcome with
  | skipped => exact absurd ho (s.writeOut_ne_skipped t log p lines)
  | split => rfl
  | failed fault => exact absurd ho (h fault)

theorem GoesOn.of_withOrder {order : Bool} {u : Unsorted} {r r' r'' : Run} {content : Bytes}
    {j : Nat} {front more : List (List Bytes)} {last extra : List Bytes}
    (h : (s.withOrder order).resolved.GoesOn t p u r r' content j front last extra more)
    (hr : r'.InStep Eq r'') : s.GoesOn t p u r r'' content j front last extra more where
  stored := h.stored
  accepts := h.accepts
  refuses := h.refuses
  before := h.before
  whole := h.whole
  partitions := h.partitions
  partitions' := hr.partitions.trans h.partitions'
  contents := h.contents
  contents' := by
    rw [hr.partitions, ← hr.trees]
    exact h.contents'
  held := by
    rw [hr.partitions]
    exact h.held

theorem holder_eq_of_prefix {items items' : List Item} {planner : Planner} {g : Target} {n : Nat}
    (h : items <+: items') (hn : n < items.length) :
    Partition.holder (g.filledFrom 1 (Pass.deal planner items')) n =
      Partition.holder (g.filledFrom 1 (Pass.deal planner items)) n := by
  have hle := h.length_le
  have htake : items'.take (n + 1) = items.take (n + 1) := by
    obtain ⟨later, rfl⟩ := h
    exact List.take_append_of_le_length hn
  rw [Partition.holder, Partition.holder, Target.map_records_filledFrom,
    Target.map_records_filledFrom, Pass.blockOf_deal hn, Pass.blockOf_deal (by omega), htake]

theorem writeOut_goesOn {u : Unsorted} (ht : t.WellFormed) (he : t.Extends t')
    (hr : t.read s.source = .ok bytes)
    (hlines : lines = Store.stream s.loss s.settings.compression bytes)
    (hu : (s.writeOut t' log p lines).outcome = .failed (.line (.unsorted u)))
    (hs : (s.writeOut t' log p.lenient lines).outcome = .split) :
    ∃ content j front last extra more,
      s.GoesOn t p u (s.writeOut t' log p lines) (s.writeOut t' log p.lenient lines) content j front
        last extra more := by
  obtain ⟨hp, ha, hrun⟩ := writeOut_rejected hu
  obtain ⟨haccepted, hfault, hp', -⟩ := writeOut_split hs
  obtain ⟨content, hc, hl⟩ := Store.stream_eq (hlines ▸ hfault)
  rw [← hlines] at hl
  rcases groups_lenient p lines with hsame | ⟨-, front, last, extra, more, -, hg, hg'⟩
  · rw [hsame, ha] at haccepted
    cases haccepted
  · obtain ⟨before, raw, rest, hsplit, hbefore, hraw⟩ := Pass.exists_rejected ha
    have hlen := length_items hbefore
    have hflat : (groups p lines).flatten = before := by
      rw [← groups_of_accepted hbefore, flatten_groups (congrArg Prod.snd hbefore)]
    have hcontents := s.contents_writeOut ht he hr log p lines
    have hcontents' := s.contents_writeOut ht he hr log p.lenient lines
    rw [hp, hg] at hcontents
    rw [hp', hg'] at hcontents'
    have hparts := (publication_complete hp).2
    have hparts' := (publication_complete hp').2
    rw [← s.writeOut_partitions t' log] at hparts hparts'
    have htake : (Store.lines content).take before.length = before := by
      rw [← hl, hsplit, List.take_left]
    have htake' : (Store.lines content).take (before.length + 1) = before ++ [raw] := by
      rw [← hl, hsplit, List.take_length_add_append]
      rfl
    refine ⟨content, before.length, front, last, extra, more, ?_⟩
    exact
      { stored := (Store.contentAt_of_read hr).trans hc
        accepts := by rw [htake, hbefore]
        refuses := by rw [htake', hraw, ha]
        before := by rw [← hg, hflat, htake]
        whole := by rw [← hg', flatten_groups haccepted, hl]
        partitions := hg ▸ hparts
        partitions' := hg' ▸ hparts'
        contents := hcontents
        contents' := hcontents'
        held := by
          intro n hn
          rw [hparts, hparts']
          exact holder_eq_of_prefix (p.items_prefix_lenient lines.lines) (hlen ▸ hn) }

theorem run_lenient (s : Splitter) (t : Volume) :
    ((∀ u, ((s.withOrder true).run t).outcome ≠ .failed (.line (.unsorted u))) →
        ((s.withOrder false).run t).answer = ((s.withOrder true).run t).answer ∧
          ((s.withOrder false).run t).log = ((s.withOrder true).run t).log ∧
            ((s.withOrder false).run t).tree = ((s.withOrder true).run t).tree) ∧
      ∀ u, ((s.withOrder true).run t).outcome = .failed (.line (.unsorted u)) →
        (∀ fault, ((s.withOrder false).run t).outcome ≠ .failed fault) →
          ∃ size content j front last extra more,
            Store.size s.settings.compression t s.source = .ok size ∧
              s.GoesOn t ((s.withOrder true).sizedPass size) u ((s.withOrder true).run t)
                ((s.withOrder false).run t) content j front last extra more := by
  constructor
  · intro hne
    rcases s.run_withOrder t with ⟨u, hu⟩ | hstep
    · exact absurd hu (hne u)
    · exact ⟨hstep.answer, hstep.log, hstep.trees.symm⟩
  · intro u hu hdone
    obtain ⟨size, t', bytes, hb⟩ := exists_begins (by rw [hu]; nofun)
    rw [hb.run_eq] at hu ⊢
    rw [(hb.withOrder false).run_eq] at hdone ⊢
    -- Apart from the pass, the lenient run does what the strict splitter would do.
    have hstep := (s.resolved.inStep_withOrder true false).writeOut (t := t') rfl
      ((s.withOrder true).opening size) ((s.withOrder true).sizedPass size).lenient
      (Store.stream s.loss s.settings.compression bytes)
    have hsplit := split_of_not_failed fun fault ho => hdone fault (hstep.outcome.trans ho)
    obtain ⟨content, j, front, last, extra, more, h⟩ :=
      writeOut_goesOn (s := (s.withOrder true).resolved) t.wellFormed hb.extends hb.read rfl hu
        hsplit
    exact ⟨size, content, j, front, last, extra, more, hb.size, h.of_withOrder hstep⟩

theorem run_lenient_orphan :
    ((splitterOfTwoLines.withOrder true).run volumeOfTwoLines).outcome = .split ∧
      ((splitterOfTwoLines.withOrder false).run volumeOfTwoLines).tree =
        ((splitterOfTwoLines.withOrder true).run volumeOfTwoLines).tree ∧
      ((splitterOfOrphan.withOrder false).run volumeOfOrphan).outcome = .split ∧
      ∃ size content j front last extra more,
        Store.size .none volumeOfOrphan splitterOfOrphan.source = .ok size ∧
          splitterOfOrphan.GoesOn volumeOfOrphan ((splitterOfOrphan.withOrder true).sizedPass size)
            ⟨"/x/y", "/b"⟩ ((splitterOfOrphan.withOrder true).run volumeOfOrphan)
            ((splitterOfOrphan.withOrder false).run volumeOfOrphan) content j front last extra
            more := by
  have hs : ((splitterOfTwoLines.withOrder true).run volumeOfTwoLines).outcome = .split := by
    decide +kernel
  have hu : ((splitterOfOrphan.withOrder true).run volumeOfOrphan).outcome =
      .failed (.line (.unsorted ⟨"/x/y", "/b"⟩)) := by decide +kernel
  have hl : ((splitterOfOrphan.withOrder false).run volumeOfOrphan).outcome = .split := by
    decide +kernel
  refine ⟨hs, ?_, hl, ?_⟩
  · exact ((run_lenient splitterOfTwoLines volumeOfTwoLines).1 (by simp [hs])).2.2
  · exact (run_lenient splitterOfOrphan volumeOfOrphan).2 _ hu (by simp [hl])

end Splitter

end SubtreePartition
