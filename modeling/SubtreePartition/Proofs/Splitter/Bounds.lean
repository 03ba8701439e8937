import SubtreePartition.Proofs.Pass.Bounds
import SubtreePartition.Proofs.Splitter.Lossless

namespace SubtreePartition.Splitter

variable {s : Splitter} {t : FileTree} {log : Log} {p : Pass} {lines : Store.Stream} {r : Run}
  {limit : Nat} {content : Bytes}

/-- The partitions of a run over `content` are not too many, and none but the last is too small. -/
structure KeepsBounds (s : Splitter) (r : Run) (limit : Nat) (content : Bytes) : Prop where
  one_le : 1 ≤ r.partitions.length
  le_count : r.partitions.length ≤ s.settings.partitionCount.value
  past : ∀ q ∈ r.partitions.dropLast, limit < q.size
  filled : content ≠ [] → ∀ q ∈ r.partitions, 1 ≤ q.records
  empty : content = [] → ∃ q, r.partitions = [q] ∧ q.size = 0 ∧ q.records = 0

theorem one_le_records (hm : 1 ≤ p.planner.maxPartitions) (ht : 0 ≤ p.planner.threshold)
    (hi : (p.acceptAll lines.lines).1 ≠ [])
    (hp : r.partitions = s.target.filledFrom 1 (groups p lines)) :
    ∀ q ∈ r.partitions, 1 ≤ q.records := by
  intro q hq
  rw [hp] at hq
  obtain ⟨k, g, hg, rfl⟩ := Target.exists_filled_of_mem hq
  exact List.length_pos_iff.mpr (Pass.ne_nil_of_mem_deal hm ht hi hg)

theorem size_mem_of_mem_dropLast {groups : List (List Bytes)} {q : Partition}
    (hp : r.partitions = s.target.filledFrom 1 groups) (hq : q ∈ r.partitions.dropLast) :
    ∃ g ∈ groups.dropLast, q.size = Pass.octets g := by
  have hsize : q.size ∈ (groups.map Pass.octets).dropLast := by
    have hmap : r.partitions.map Partition.size = groups.map Pass.octets :=
      hp ▸ Target.map_size_filledFrom s.target 1 groups
    rw [← hmap, ← List.map_dropLast]
    exact List.mem_map_of_mem hq
  rw [← List.map_dropLast] at hsize
  obtain ⟨g, hg, he⟩ := List.mem_map.mp hsize
  exact ⟨g, hg, he.symm⟩

theorem groups_of_empty (h : lines.lines = []) : groups p lines = [[]] := by
  rw [groups, h]
  rfl

theorem keepsBounds_of_split (ht : p.planner.threshold = limit)
    (hm : p.planner.maxPartitions = s.settings.partitionCount.value)
    (hl : lines.lines = Store.lines content)
    (h : (s.writeOut t log p lines).outcome = .split) :
    s.KeepsBounds (s.writeOut t log p lines) limit content := by
  have hm1 : 1 ≤ p.planner.maxPartitions := by
    have := s.settings.partitionCount.one_le
    omega
  have hb : Pass.Bounded p.planner (groups p lines) := Pass.bounded_deal hm1 _
  have hp := (partitions_of_split h).trans (s.target.filledFrom_one _).symm
  obtain ⟨haccepted, -, -, -⟩ := writeOut_split h
  refine ⟨?_, ?_, ?_, ?_, ?_⟩
  · have hne := groups_ne_nil p lines
    rw [hp, Target.filledFrom, List.length_mapIdx]
    exact List.length_pos_iff.mpr hne
  · have hc := hb.count
    rw [hm] at hc
    rw [hp, Target.filledFrom, List.length_mapIdx]
    exact Int.ofNat_le.mp hc
  · intro q hq
    obtain ⟨g, hg, hsize⟩ := size_mem_of_mem_dropLast hp hq
    have hlt := hb.past g hg
    rw [ht, ← hsize] at hlt
    exact Int.ofNat_lt.mp hlt
  · intro hc
    have hitems : (p.acceptAll lines.lines).1 ≠ [] := by
      rw [← List.length_pos_iff, Pass.length_acceptAll haccepted, List.length_pos_iff, hl]
      intro he
      have hf := Store.flatten_lines content
      rw [he] at hf
      exact hc hf.symm
    exact one_le_records hm1 (by omega) hitems hp
  · intro hc
    rw [hc] at hl
    rw [hp, groups_of_empty hl]
    exact ⟨s.target.filled 1 [], rfl, rfl, rfl⟩

theorem KeepsBounds.of_resolved (h : s.resolved.KeepsBounds r limit content) :
    s.KeepsBounds r limit content :=
  ⟨h.one_le, h.le_count, h.past, h.filled, h.empty⟩

theorem run_keepsBounds (s : Splitter) (t : FileTree) (h : (s.run t).outcome = .split) :
    ∃ size content, Store.size s.settings.compression t s.source = .ok size ∧
      Store.contentAt s.settings.compression t s.source = some content ∧
        s.KeepsBounds (s.run t) (threshold s.settings size) content := by
  obtain ⟨size, t', bytes, hb⟩ := exists_begins (s := s) (t := t) (by rw [h]; nofun)
  rw [hb.run_eq] at h ⊢
  obtain ⟨-, hfault, -, -⟩ := writeOut_split h
  obtain ⟨content, hc, hlines⟩ := Store.stream_eq hfault
  refine ⟨size, content, hb.size, (Store.contentAt_of_read hb.read).trans hc, ?_⟩
  exact (keepsBounds_of_split rfl rfl hlines h).of_resolved

def joinedStore : Bytes :=
  Gzip.write (Utf8.encode "/a|{}\n/b|{}\n") ++ Gzip.write (Utf8.encode "/c|{}")

def treeOfJoined : FileTree :=
  { nodes := [(["store"], .file joinedStore)] }

def splitterOfJoined : Splitter :=
  { source := ⟨1, ["store"]⟩
    settings :=
      { workDir := ⟨1, ["out"]⟩
        partitionCount := ⟨3, by decide⟩
        minSplitSize := 0 }
    boundaries := .fixed .empty }

theorem run_keepsBounds_joined :
    (splitterOfJoined.run treeOfJoined).outcome = .split ∧
      Store.size .gzip treeOfJoined splitterOfJoined.source = .ok 5 ∧
      ∃ size content,
        Store.size splitterOfJoined.settings.compression treeOfJoined splitterOfJoined.source =
          .ok size ∧
        Store.contentAt splitterOfJoined.settings.compression treeOfJoined
          splitterOfJoined.source = some content ∧
        splitterOfJoined.KeepsBounds (splitterOfJoined.run treeOfJoined)
          (threshold splitterOfJoined.settings size) content := by
  have hs : (splitterOfJoined.run treeOfJoined).outcome = .split := by decide +kernel
  have hsize : Store.size .gzip treeOfJoined splitterOfJoined.source = .ok 5 := by decide +kernel
  exact ⟨hs, hsize, run_keepsBounds splitterOfJoined treeOfJoined hs⟩

end SubtreePartition.Splitter
