import SubtreePartition.Proofs.Splitter.Run
import SubtreePartition.Proofs.Store.Lines

namespace SubtreePartition.Splitter

variable {s : Splitter} {t t' : FileTree} {log : Log} {p : Pass} {lines : Store.Stream}

theorem source_ne_place {here place : Location} {content : Bytes} (ht : t.WellFormed)
    (hl : t.locate s.source = .ok place) (hf : t.find? place = some (.file content)) (k : Nat) :
    place ≠ s.target.place here k := by
  obtain ⟨there, rfl⟩ := ht.locate_file hl hf
  intro he
  exact FilePath.partitionName_ne_self k s.source.name (FileTree.last_inj he).symm

theorem read_source_of_writes {u : FileTree} {bytes : Bytes} {index : Nat}
    {groups : List (List Bytes)} (ht : t.WellFormed) (he : t.Extends t')
    (hb : t.read s.source = .ok bytes) (hw : s.target.Writes t' index groups u) :
    u.read s.source = .ok bytes := by
  obtain ⟨place, hl, hf⟩ := FileTree.read_eq_ok_iff_file.mp hb
  have hl' := (he.keepsDirectories.trans hw.keepsDirectories).locate hl
  refine FileTree.read_eq_ok_iff_file.mpr ⟨place, hl', ?_⟩
  rcases hw.find?_cases place with hsame | ⟨-, here, k, g, -, hplace, -, -⟩
  · exact hsame.trans (he.find? place _ hf)
  · exact absurd hplace (source_ne_place ht hl hf _)

theorem read_path_of_split {bytes : Bytes} (ht : t.WellFormed) (he : t.Extends t')
    (hb : t.read s.source = .ok bytes) (h : (s.writeOut t' log p lines).outcome = .split)
    {k : Nat} {g : List Bytes} (hg : (groups p lines)[k]? = some g) :
    (s.writeOut t' log p lines).tree.read (s.target.path (k + 1)) =
      .ok (Store.encode s.settings.compression g.flatten) := by
  obtain ⟨-, -, hfault, htree⟩ := writeOut_split h
  obtain ⟨hw, -⟩ := publication_complete hfault
  obtain ⟨here, hh⟩ := hw.leadsTo (groups_ne_nil p lines)
  have hread := hw.read_path hh hg
  rw [Nat.add_comm k 1]
  rcases htree with htree | hremove
  · rw [htree]
    exact hread
  · obtain ⟨hlt, -⟩ := List.getElem?_eq_some_iff.mp hg
    have hpath := hw.locate_path hh hlt
    obtain ⟨place, hl, hf⟩ := FileTree.read_eq_ok_iff_file.mp hb
    have hl' := (he.keepsDirectories.trans hw.keepsDirectories).locate hl
    refine FileTree.read_remove_of_ne hremove hl' hpath ?_ hread
    exact source_ne_place ht hl hf _

theorem partitions_of_split (h : (s.writeOut t log p lines).outcome = .split) :
    (s.writeOut t log p lines).partitions =
      (groups p lines).mapIdx fun k g => s.target.filled (k + 1) g := by
  obtain ⟨-, -, hfault, -⟩ := writeOut_split h
  rw [writeOut_partitions, (publication_complete hfault).2, Target.filledFrom_one]

theorem paths_of_split (h : (s.writeOut t log p lines).outcome = .split) :
    (s.writeOut t log p lines).paths = (groups p lines).mapIdx fun k _ => s.target.path (k + 1) := by
  have hpaths : (s.writeOut t log p lines).paths =
      (s.writeOut t log p lines).partitions.map Partition.path := by
    simp [Run.paths, h]
  rw [hpaths, partitions_of_split h]
  refine List.ext_getElem? fun k => ?_
  simp only [List.getElem?_map, List.getElem?_mapIdx, Option.map_map]
  rfl

/-- A run on `t` has divided the content of its source: `groups` are the lines of the returned files,
which follow each other as in the source. -/
structure Divides (s : Splitter) (t : FileTree) (r : Run) (content : Bytes)
    (groups : List (List Bytes)) : Prop where
  source : Store.contentAt s.settings.compression t s.source = some content
  lossless : (groups.map List.flatten).flatten = content
  wholeLines : Store.LinesOf content groups.flatten
  linesOfFile : ∀ g ∈ groups, Store.LinesOf g.flatten g
  paths : r.paths =
    groups.mapIdx fun k _ => FilePath.partition s.settings.workDir (k + 1 : Nat) s.source
  files : r.paths.map (Store.contentAt s.settings.compression r.tree) =
    groups.map fun g => some g.flatten
  partitions : r.partitions = groups.mapIdx fun k g =>
    { index := k + 1
      path := FilePath.partition s.settings.workDir (k + 1 : Nat) s.source
      size := g.flatten.length
      records := g.length }

theorem Divides.of_resolved {r : Run} {content : Bytes} {groups : List (List Bytes)}
    (h : s.resolved.Divides t r content groups) : s.Divides t r content groups :=
  ⟨h.source, h.lossless, h.wholeLines, h.linesOfFile, h.paths, h.files, h.partitions⟩

theorem filled_eq (s : Splitter) (k : Nat) (g : List Bytes) :
    s.target.filled (k + 1) g =
      { index := k + 1
        path := FilePath.partition s.settings.workDir (k + 1 : Nat) s.source
        size := g.flatten.length
        records := g.length } :=
  rfl

theorem contents_of_split {bytes : Bytes} (ht : t.WellFormed) (he : t.Extends t')
    (hb : t.read s.source = .ok bytes) (h : (s.writeOut t' log p lines).outcome = .split) :
    (s.writeOut t' log p lines).paths.map
        (Store.contentAt s.settings.compression (s.writeOut t' log p lines).tree) =
      (groups p lines).map fun g => some g.flatten := by
  rw [paths_of_split h]
  refine List.ext_getElem? fun k => ?_
  rw [List.getElem?_map, List.getElem?_mapIdx, List.getElem?_map]
  cases hg : (groups p lines)[k]? with
  | none => rfl
  | some g =>
    have hread := read_path_of_split ht he hb h hg
    exact congrArg some ((Store.contentAt_of_read hread).trans (Store.content?_encode _ _))

theorem divides_of_split {bytes : Bytes} (ht : t.WellFormed) (he : t.Extends t')
    (hb : t.read s.source = .ok bytes)
    (h : (s.writeOut t' log p (Store.stream s.loss s.settings.compression bytes)).outcome =
      .split) :
    ∃ content groups, s.Divides t
      (s.writeOut t' log p (Store.stream s.loss s.settings.compression bytes)) content groups := by
  obtain ⟨haccepted, hfault, -, -⟩ := writeOut_split h
  obtain ⟨content, hc, hlines⟩ := Store.stream_eq hfault
  have hof : Store.LinesOf content
      (groups p (Store.stream s.loss s.settings.compression bytes)).flatten := by
    rw [flatten_groups haccepted, hlines]
    exact Store.linesOf_lines content
  have hparts := partitions_of_split h
  refine ⟨content, groups p (Store.stream s.loss s.settings.compression bytes), ?_, ?_, hof,
    hof.of_mem_groups, ?_, ?_, ?_⟩
  · rw [Store.contentAt_of_read hb, hc]
  · rw [← List.flatten_flatten, hof.flatten]
  · rw [paths_of_split h]
    rfl
  · exact contents_of_split ht he hb h
  · simp only [hparts, filled_eq]

theorem run_divides (s : Splitter) (t : Volume) (h : (s.run t).outcome = .split) :
    ∃ content groups, s.Divides t (s.run t) content groups := by
  rcases s.run_cases t with ⟨s', t', outcome, phases, log, hr, hne⟩ |
    ⟨size, t', bytes, log, hs, hm, hb, hr⟩
  · rw [hr] at h
    exact absurd h hne
  · rw [hr] at h ⊢
    have he := FileTree.extends_makeDirectories hm
    have hbytes : t.read s.resolved.source = .ok bytes := Store.read_of_size hs he hb
    obtain ⟨content, groups, hd⟩ := divides_of_split t.wellFormed he hbytes h
    exact ⟨content, groups, hd.of_resolved⟩

def twoLines : Bytes :=
  Utf8.encode "/a|{}\n/b|{}"

def treeOfTwoLines : FileTree :=
  { nodes :=
      [(["store"], .file twoLines), (["out"], .directory), (["out", "split-2-store"], .file [7])] }

def volumeOfTwoLines : Volume :=
  ⟨treeOfTwoLines, FileTree.wellFormed_of_nodes (by decide) (by decide)⟩

def splitterOfTwoLines : Splitter :=
  { source := ⟨1, ["store"]⟩
    settings :=
      { workDir := ⟨1, ["out"]⟩
        partitionCount := ⟨2, by decide⟩
        minSplitSize := 0
        thresholdOverride := some 0
        compression := .none
        deleteSource := true }
    boundaries := .fixed .empty }

theorem run_divides_two_lines :
    (splitterOfTwoLines.run volumeOfTwoLines).outcome = .split ∧
      ∃ content groups, splitterOfTwoLines.Divides volumeOfTwoLines
        (splitterOfTwoLines.run volumeOfTwoLines) content groups := by
  have hs : (splitterOfTwoLines.run volumeOfTwoLines).outcome = .split := by decide +kernel
  exact ⟨hs, run_divides splitterOfTwoLines volumeOfTwoLines hs⟩

end SubtreePartition.Splitter
