import SubtreePartition.Proofs.FileTree.Kept
import SubtreePartition.Proofs.Partition.Contents
import SubtreePartition.Proofs.Splitter.Bounds

namespace SubtreePartition.Splitter

variable {s : Splitter} {t t' u : FileTree} {log : Log} {p : Pass} {lines : Store.Stream}
  {bytes : Bytes} {size : Nat} {rejection : Rejection} {front : List Bytes} {raw : Bytes}
  {r : Run}

theorem split_of_writes (ht : t.WellFormed) (he : t.Extends t')
    (hb : t.read s.source = .ok bytes) (hw : s.target.Writes t' 1 (groups p lines) u)
    (ha : (p.acceptAll lines.lines).2 = none) (hf : lines.fault = none) :
    (s.writeOut t' log p lines).outcome = .split := by
  have hp : (s.publication t' p lines).fault = none := hw.fault_publish
  cases s.ending_writeOut t' log p lines with
  | unopened fault publishes run => simp [hp] at publishes
  | rejected rejection publishes accepts run => simp [ha] at accepts
  | interrupted fault publishes accepts reads run => simp [hf] at reads
  | finished publishes accepts reads run =>
    have hread : (s.completed t' log p lines).tree.read s.source = .ok bytes :=
      read_source_of_writes ht he hb (publication_complete hp).1
    rw [run, finish_outcome hread]
    rfl

def withThreshold (s : Splitter) (limit : Nat) : Splitter :=
  { s with settings := { s.settings with thresholdOverride := some limit } }

theorem Begins.withThreshold {bytes' : Bytes} {n : Nat} {t₁ : FileTree}
    (h : s.Begins t size t' bytes) (hw : t.write s.source bytes' = .ok t₁)
    (hs : Store.size s.settings.compression t₁ s.source = .ok n) :
    ∃ t₁', (s.withThreshold (threshold s.settings size)).Begins t₁ n t₁' bytes' ∧
      t'.bare = t₁'.bare := by
  obtain ⟨t₁', hm, hbare⟩ :=
    FileTree.exists_makeDirectories_of_bare (FileTree.bare_eq_of_write h.read hw) h.directory
  have hread := (FileTree.extends_makeDirectories hm).read (FileTree.read_of_write hw)
  exact ⟨t₁', ⟨hs, h.necessary, h.base, hm, hread⟩, hbare⟩

structure SameOutput (c : Compression) (r r' : Run) : Prop where
  partitions : r'.partitions = r.partitions
  contents : ∀ q ∈ r.partitions,
    Store.contentAt c r'.tree q.path = Store.contentAt c r.tree q.path

def AsIfCut (s : Splitter) (t : FileTree) (r : Run) (limit : Nat) (content : Bytes) : Prop :=
  ∀ t' bytes n, t.write s.source bytes = .ok t' →
    Store.content? s.settings.compression bytes = some content →
      Store.size s.settings.compression t' s.source = .ok n →
        ((s.withThreshold limit).run t').outcome = .split ∧
          SameOutput s.settings.compression r ((s.withThreshold limit).run t')

/-- A run on `t` has been stopped by the line `raw`, and has left what comes of the lines before
it. -/
structure LeavesPrefix (s : Splitter) (t : FileTree) (r : Run) (rejection : Rejection) (size : Nat)
    (bytes : Bytes) (front : List Bytes) (raw : Bytes) : Prop where
  stated : Store.size s.settings.compression t s.source = .ok size
  stored : t.read s.source = .ok bytes
  lines : ∃ rest, (Store.stream s.loss s.settings.compression bytes).lines = front ++ raw :: rest
  accepts : ((s.sizedPass size).acceptAll front).2 = none
  rejects : ((s.sizedPass size).acceptAll (front ++ [raw])).2 = some rejection
  source : r.tree.read s.source = .ok bytes
  phase : r.phase = .streaming
  files : ∃ groups : List (List Bytes), groups.flatten = front ∧
    r.partitions.map Partition.records = groups.map List.length ∧
    r.partitions.map (fun q => Store.contentAt s.settings.compression r.tree q.path) =
      groups.map fun g => some g.flatten
  held : ∀ n, (Partition.holder r.partitions n).isSome ↔ n < front.length
  filled : front ≠ [] → ∀ q ∈ r.partitions, 1 ≤ q.records
  storable : ∃ t' n, t.write s.source (Store.encode s.settings.compression front.flatten) = .ok t' ∧
    Store.size s.settings.compression t' s.source = .ok n
  cut : s.AsIfCut t r (threshold s.settings size) front.flatten

theorem storable_of_read {c : Compression} {q : FilePath} (h : t.read q = .ok bytes)
    (content : Bytes) :
    ∃ t' n, t.write q (Store.encode c content) = .ok t' ∧ Store.size c t' q = .ok n := by
  obtain ⟨t', hw⟩ := FileTree.exists_write_of_read h (Store.encode c content)
  obtain ⟨n, hn⟩ := Store.exists_size_of_encode (FileTree.read_of_write hw)
  exact ⟨t', n, hw, hn⟩

theorem groups_of_accepted (hfront : p.acceptAll front = ((p.acceptAll lines.lines).1, none)) :
    groups p ⟨front, none⟩ = groups p lines := by
  rw [groups, hfront, groups]

theorem asIfCut_of_writes (ht : t.WellFormed) (h : s.Begins t size t' bytes)
    (hof : Store.LinesOf front.flatten front)
    (hfront : (s.sizedPass size).acceptAll front =
      (((s.sizedPass size).acceptAll lines.lines).1, none))
    (hw : s.target.Writes t' 1 (groups (s.sizedPass size) lines) r.tree)
    (hq : r.partitions = s.target.filledFrom 1 (groups (s.sizedPass size) lines)) :
    s.AsIfCut t r (threshold s.settings size) front.flatten := by
  intro t₁ bytes₁ n hw₁ hc hs
  obtain ⟨t₁', hb₁, hbare⟩ := h.withThreshold hw₁ hs
  have hstream : Store.stream s.loss s.settings.compression bytes₁ = ⟨front, none⟩ := by
    rw [Store.stream_of_content? _ hc, hof.lines_eq]
  -- Both runs deal out the same groups, into trees that differ in what the source holds.
  rw [← groups_of_accepted hfront] at hw hq
  let s₁ := (s.withThreshold (threshold s.settings size)).resolved
  let r₁ := s₁.writeOut t₁' ((s.withThreshold (threshold s.settings size)).opening n)
    (s.sizedPass size) ⟨front, none⟩
  have hrun : (s.withThreshold (threshold s.settings size)).run t₁ = r₁ := by
    rw [hb₁.run_eq]
    exact congrArg (s₁.writeOut t₁' _ (s.sizedPass size)) hstream
  have ht₁ : t₁.WellFormed := FileTree.kept_wellFormed.write _ _ _ _ hw₁ ht
  have hread₁ : t₁.read s₁.source = .ok bytes₁ := hb₁.read
  obtain ⟨u, hu⟩ := hw.exists_of_bare hbare
  have hsplit : r₁.outcome = .split :=
    split_of_writes ht₁ hb₁.extends hread₁ hu (by rw [hfront]) rfl
  have hq₁ : r₁.partitions = r.partitions := by
    rw [hq, Target.filledFrom_one]
    exact partitions_of_split hsplit
  have hpaths : r₁.paths = r.partitions.map Partition.path := by
    rw [← hq₁, Run.paths, hsplit]
  rw [hrun]
  refine ⟨hsplit, hq₁, ?_⟩
  have hcontents := contents_of_split ht₁ hb₁.extends hread₁ hsplit
  rw [hpaths, List.map_map, hq] at hcontents
  rw [hq]
  exact List.map_inj_left.mp (hcontents.trans hw.contentsOf.symm)

theorem length_items (hfront : p.acceptAll front = ((p.acceptAll lines.lines).1, none)) :
    (p.acceptAll lines.lines).1.length = front.length := by
  have h : (p.acceptAll front).1.length = front.length := Pass.length_acceptAll (by rw [hfront])
  rwa [hfront] at h

theorem holder_iff (hq : r.partitions = s.target.filledFrom 1 (groups p lines)) (n : Nat) :
    (Partition.holder r.partitions n).isSome ↔ n < (p.acceptAll lines.lines).1.length := by
  rw [Partition.holder, hq, Target.map_records_filledFrom, isSome_blockOf, groups,
    Pass.sum_length_deal]

theorem leavesPrefix_of_writes {rest : List Bytes} (ht : t.WellFormed)
    (h : s.Begins t size t' bytes)
    (hlines : lines = Store.stream s.loss s.settings.compression bytes)
    (hl : lines.lines = front ++ raw :: rest)
    (hfront : (s.sizedPass size).acceptAll front =
      (((s.sizedPass size).acceptAll lines.lines).1, none))
    (hraw : ((s.sizedPass size).acceptAll (front ++ [raw])).2 = some rejection)
    (hw : s.target.Writes t' 1 (groups (s.sizedPass size) lines) r.tree)
    (hq : r.partitions = s.target.filledFrom 1 (groups (s.sizedPass size) lines))
    (hphase : r.phase = .streaming) : s.LeavesPrefix t r rejection size bytes front raw := by
  have hof : Store.LinesOf front.flatten front := by
    have hall := Store.linesOf_stream s.loss s.settings.compression bytes
    rw [← hlines, hl] at hall
    exact hall.of_append_left
  have haccepts : ((s.sizedPass size).acceptAll front).2 = none := congrArg Prod.snd hfront
  have hlen := length_items hfront
  have hg := groups_of_accepted hfront
  have hrecords := Target.map_records_filledFrom s.target 1 (groups (s.sizedPass size) lines)
  have hcontents := hw.contentsOf
  rw [← hq, ← hg] at hrecords hcontents
  have hfilled : front ≠ [] → ∀ q ∈ r.partitions, 1 ≤ q.records := by
    intro hne
    refine one_le_records (Int.ofNat_le.mpr s.settings.partitionCount.one_le)
      (Int.natCast_nonneg _) ?_ hq
    rwa [← List.length_pos_iff, hlen, List.length_pos_iff]
  exact
    { stated := h.size
      stored := h.read
      lines := ⟨rest, hlines ▸ hl⟩
      accepts := haccepts
      rejects := hraw
      source := read_source_of_writes ht h.extends h.read hw
      phase := hphase
      files := ⟨_, flatten_groups haccepts, hrecords, hcontents⟩
      held := fun n => hlen ▸ holder_iff hq n
      filled := hfilled
      storable := storable_of_read h.read _
      cut := asIfCut_of_writes ht h hof hfront hw hq }

theorem run_leavesPrefix (s : Splitter) (t : Volume)
    (h : (s.run t).outcome = .failed (.line rejection)) :
    ∃ size bytes front raw, s.LeavesPrefix t (s.run t) rejection size bytes front raw := by
  obtain ⟨size, t', bytes, hb⟩ := exists_begins (s := s) (t := t) (by rw [h]; nofun)
  rw [hb.run_eq] at h ⊢
  obtain ⟨hp, ha, hrun⟩ := writeOut_rejected h
  obtain ⟨front, raw, rest, hl, hfront, hraw⟩ := Pass.exists_rejected ha
  obtain ⟨hw, hq⟩ := publication_complete hp
  rw [← hraw] at ha
  rw [hrun]
  exact ⟨size, bytes, front, raw,
    leavesPrefix_of_writes t.wellFormed hb rfl hl hfront ha hw hq (broken_phase hp _)⟩

def treeOfBroken : FileTree :=
  { nodes :=
      [(["store"], .file (Gzip.write (Utf8.encode "/a|{}\n/b|{}\n/c"))),
        (["split-3-store"], .file [7])] }

def volumeOfBroken : Volume :=
  ⟨treeOfBroken, FileTree.wellFormed_of_nodes (by decide +kernel) (by decide +kernel)⟩

def splitterOfBroken : Splitter :=
  { source := ⟨1, ["store"]⟩
    settings :=
      { workDir := ⟨1, []⟩
        minSplitSize := 0
        thresholdOverride := some 0
        deleteSource := true }
    boundaries := .fixed .empty }

theorem run_leavesPrefix_broken :
    (splitterOfBroken.run volumeOfBroken).outcome =
        .failed (.line (.malformed (.malformed "/c" .noSeparator))) ∧
      ∃ size bytes front raw, splitterOfBroken.LeavesPrefix volumeOfBroken
        (splitterOfBroken.run volumeOfBroken) (.malformed (.malformed "/c" .noSeparator)) size bytes
        front raw := by
  have hr : (splitterOfBroken.run volumeOfBroken).outcome =
      .failed (.line (.malformed (.malformed "/c" .noSeparator))) := by decide +kernel
  exact ⟨hr, run_leavesPrefix splitterOfBroken volumeOfBroken hr⟩

end SubtreePartition.Splitter
