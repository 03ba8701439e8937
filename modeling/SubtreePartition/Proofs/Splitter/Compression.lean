import SubtreePartition.Proofs.Partition.Contents
import SubtreePartition.Proofs.Splitter.InStep
import SubtreePartition.Proofs.Splitter.Lossless
import SubtreePartition.Proofs.Splitter.Skip
import SubtreePartition.Proofs.Store.Joined

namespace SubtreePartition

namespace Target

def withCompression (g : Target) (c : Compression) : Target :=
  { g with compression := c }

theorem inStep_of_bare (g : Target) (c : Compression) :
    g.InStep (fun t u => t.bare = u.bare) (g.withCompression c) where
  path := rfl
  write := by
    intro t u k lines hb
    apply FileTree.error_or_ok_of_bare
    rw [writeLines, writeLines, ← FileTree.write_bare, ← FileTree.write_bare, hb]
    rfl

end Target

structure Run.SameCourse (r r' : Run) : Prop where
  outcome : r'.outcome = r.outcome
  phases : r'.phases = r.phases
  partitions : r'.partitions = r.partitions
  log : r'.log = r.log
  source : r'.splitter.source = r.splitter.source
  layout : r.tree.bare = r'.tree.bare

theorem Run.SameCourse.paths {r r' : Run} (h : r.SameCourse r') : r'.paths = r.paths := by
  rw [Run.paths, Run.paths, h.outcome, h.partitions, h.source]

namespace Splitter

variable {s : Splitter} {t u t₀ u₀ : FileTree} {log : Log} {p : Pass} {lines : Store.Stream}
  {r r' : Run} {c : Compression} {bytes bytes' : Bytes} {size : Nat}

def withCompression (s : Splitter) (c : Compression) : Splitter :=
  { s with settings := { s.settings with compression := c } }

theorem sameCourse_stop (c : Compression) (hb : t.bare = u.bare) (outcome : Outcome)
    (phases : List Phase) (log : Log) :
    (s.stop t outcome phases log).SameCourse
      ((s.withCompression c).stop u outcome phases log) :=
  ⟨rfl, rfl, rfl, rfl, rfl, hb⟩

theorem inStep_of_bare (s : Splitter) (c : Compression) :
    s.InStep (fun t u => t.bare = u.bare) (fun t u => t.bare = u.bare) (s.withCompression c) where
  source := rfl
  deleteSource := rfl
  target := s.target.inStep_of_bare c
  remove := by
    intro t u hb
    apply FileTree.error_or_ok_of_bare
    rw [← FileTree.remove_bare, ← FileTree.remove_bare, hb]
  weaken := fun _ _ hb => hb

theorem sameCourse_writeOut (c : Compression) (hb : t.bare = u.bare) (log : Log) (p : Pass)
    (lines : Store.Stream) :
    (s.writeOut t log p lines).SameCourse ((s.withCompression c).writeOut u log p lines) :=
  have h := (s.inStep_of_bare c).writeOut hb log p lines
  ⟨h.outcome, h.phases, h.partitions, h.log, h.source, h.trees⟩

theorem contents_writeOut (ht : t₀.WellFormed) (he : t₀.Extends t)
    (hr : t₀.read s.source = .ok bytes) (log : Log) (p : Pass) (lines : Store.Stream) :
    s.target.contentsOf (s.writeOut t log p lines).tree (s.writeOut t log p lines).partitions =
      match (s.publication t p lines).fault with
      | none => (groups p lines).map fun g => some g.flatten
      | some _ =>
          ((groups p lines).take ((s.writeOut t log p lines).partitions.length - 1)).map
            (fun g => some g.flatten) ++ [none] := by
  rcases s.writeOut_tree t log p lines with htree | ⟨-, -, hsplit, -⟩
  · rw [htree, writeOut_partitions]
    exact (s.target.published_publish t (groups p lines)).contentsOf
  · have hpaths : (s.writeOut t log p lines).paths =
        (s.writeOut t log p lines).partitions.map Partition.path := by
      rw [Run.paths, hsplit]
    have hcontents := contents_of_split ht he hr hsplit
    rw [hpaths, List.map_map] at hcontents
    rw [(writeOut_split hsplit).2.2.1]
    exact hcontents

/-- Two runs that keep their partitions with different compressions, and agree in everything else:
their partitions hold the same once they are decompressed. -/
structure AgreesUpTo (c c' : Compression) (r r' : Run) : Prop extends r.SameCourse r' where
  paths : r'.paths = r.paths
  contents : r'.partitions.map (fun q => Store.contentAt c' r'.tree q.path) =
    r.partitions.map (fun q => Store.contentAt c r.tree q.path)

theorem agrees_stop (c : Compression) (hb : t.bare = u.bare) (outcome : Outcome)
    (phases : List Phase) (log : Log) :
    AgreesUpTo s.settings.compression c (s.stop t outcome phases log)
      ((s.withCompression c).stop u outcome phases log) :=
  have hcourse := s.sameCourse_stop c hb outcome phases log
  ⟨hcourse, hcourse.paths, rfl⟩

theorem agrees_writeOut (hb₀ : t₀.bare = u₀.bare) (ht : t₀.WellFormed) (het : t₀.Extends t)
    (heu : u₀.Extends u) (hrt : t₀.read s.source = .ok bytes) (hru : u₀.read s.source = .ok bytes')
    (hb : t.bare = u.bare) (log : Log) (p : Pass) (lines : Store.Stream) :
    AgreesUpTo s.settings.compression c (s.writeOut t log p lines)
      ((s.withCompression c).writeOut u log p lines) := by
  have hcourse := s.sameCourse_writeOut c hb log p lines
  have ht' := s.contents_writeOut ht het hrt log p lines
  have hu' := (s.withCompression c).contents_writeOut (ht.of_bare hb₀) heu hru log p lines
  rw [hcourse.partitions, ((s.inStep_of_bare c).publication hb p lines).fault, ← ht'] at hu'
  refine ⟨hcourse, hcourse.paths, ?_⟩
  rw [hcourse.partitions]
  exact hu'

structure StoresAlike (s : Splitter) (c : Compression) (t u : FileTree) (bytes bytes' : Bytes) :
    Prop where
  wellFormed : t.WellFormed
  layout : t.bare = u.bare
  plain : t.read s.source = .ok bytes
  packed : u.read s.source = .ok bytes'
  stream : Store.stream s.loss c bytes' = Store.stream s.loss s.settings.compression bytes

theorem agrees_partitionInto (h : s.StoresAlike c t u bytes bytes') (log : Log) (p : Pass) :
    AgreesUpTo s.settings.compression c (s.partitionInto t log p)
      ((s.withCompression c).partitionInto u log p) := by
  rcases hm : t.makeDirectories s.settings.workDir with ⟨t', fault⟩
  obtain ⟨u', hm', hb⟩ := FileTree.exists_makeDirectories_of_bare h.layout hm
  have het := FileTree.extends_makeDirectories hm
  have heu := FileTree.extends_makeDirectories hm'
  have hw : (s.withCompression c).settings.workDir = s.settings.workDir := rfl
  have hs : (s.withCompression c).source = s.source := rfl
  cases fault with
  | none =>
    have hc : Store.stream (s.withCompression c).loss (s.withCompression c).settings.compression
        bytes' = Store.stream s.loss s.settings.compression bytes := h.stream
    simp only [partitionInto, hw, hm, hm', stream, hs, het.read h.plain, heu.read h.packed, hc]
    exact agrees_writeOut h.layout h.wellFormed het heu h.plain h.packed hb _ _ _
  | some fault =>
    cases hf : fault.isSystem with
    | true =>
      simp only [partitionInto, hw, hm, hm', hf, if_true]
      exact agrees_stop c hb _ _ _
    | false =>
      simp only [partitionInto, hw, hm, hm', hf, Bool.false_eq_true, if_false]
      exact agrees_stop c hb _ _ _

theorem agrees_run_of_size (h : s.StoresAlike c t u bytes bytes')
    (hs : Store.size s.settings.compression t s.source = .ok size)
    (hs' : Store.size (s.withCompression c).settings.compression u (s.withCompression c).source =
      .ok size) :
    AgreesUpTo s.settings.compression c (s.run t) ((s.withCompression c).run u) := by
  by_cases hn : s.IsNeedless size
  · have hn' : (s.withCompression c).IsNeedless size := hn
    rw [run_of_needless hs hn, run_of_needless hs' hn']
    exact agrees_stop c h.layout _ _ _
  · have hn' : ¬ (s.withCompression c).IsNeedless size := hn
    by_cases hb : s.ProtectsBase
    · obtain ⟨base, hbase⟩ := hb
      have hsome := isBaseProtected_eq_some_iff.mpr hbase
      have hsome' : isBaseProtected (s.withCompression c).settings
          (s.withCompression c).boundaries.resolve.1 = some base := hsome
      rw [run_of_base hs hn hsome, run_of_base hs' hn' hsome']
      exact agrees_stop (s := s.resolved) c h.layout _ _ _
    · have hb' : ¬ (s.withCompression c).ProtectsBase := hb
      have hres : s.resolved.StoresAlike c t u bytes bytes' :=
        ⟨h.wellFormed, h.layout, h.plain, h.packed, h.stream⟩
      rw [run_of_unprotected hs hn hb, run_of_unprotected hs' hn' hb']
      exact agrees_partitionInto hres _ _

theorem run_agrees_of_packs (s : Splitter) (content : Bytes) (t : Volume)
    (hb : t.bare = u.bare) (hlen : content.length < 2 ^ 32)
    (hplain : t.read s.source = .ok content) (hgzip : u.read s.source = .ok bytes)
    (hp : Store.Packs bytes content) :
    AgreesUpTo .none .gzip ((s.withCompression .none).run t)
        ((s.withCompression .gzip).run u) ∧
      ∀ chunks, chunks.flatten = content → Store.Packs (Store.written .gzip chunks) content := by
  have hsame : (s.withCompression .none).StoresAlike .gzip t u content bytes :=
    ⟨t.wellFormed, hb, hplain, hgzip, Store.stream_of_content? _ hp.reads⟩
  have hsize : Store.size .none t s.source = .ok content.length := by
    rw [Store.size, FileTree.size, FileTree.read_eq_ok_iff.mp hplain]
    rfl
  have hstated : Store.size .gzip u s.source = .ok content.length := by
    rw [Store.size, hgzip]
    exact hp.states.trans (congrArg Except.ok (Nat.mod_eq_of_lt hlen))
  constructor
  · exact agrees_run_of_size hsame hsize hstated
  · rintro chunks rfl
    exact Store.packs_written chunks

def piecesOfTwoLines : List Bytes :=
  [twoLines.take 3, [], twoLines.drop 3]

def treeOfTwoPacked : FileTree :=
  { nodes :=
      [(["store"], .file (Store.written .gzip piecesOfTwoLines)), (["out"], .directory),
        (["out", "split-2-store"], .file [])] }

theorem run_agrees_two_lines :
    AgreesUpTo .none .gzip ((splitterOfTwoLines.withCompression .none).run volumeOfTwoLines)
        ((splitterOfTwoLines.withCompression .gzip).run treeOfTwoPacked) ∧
      ((splitterOfTwoLines.withCompression .gzip).run treeOfTwoPacked).outcome = .split := by
  have hb : volumeOfTwoLines.bare = treeOfTwoPacked.bare := by decide +kernel
  have hlen : twoLines.length < 2 ^ 32 := by decide +kernel
  have hplain : volumeOfTwoLines.read splitterOfTwoLines.source = .ok twoLines := by decide +kernel
  have hgzip : treeOfTwoPacked.read splitterOfTwoLines.source =
      .ok (Store.written .gzip piecesOfTwoLines) := by decide +kernel
  have hpieces : piecesOfTwoLines.flatten = twoLines := by decide +kernel
  have hp := Store.packs_written piecesOfTwoLines
  rw [hpieces] at hp
  have h := run_agrees_of_packs splitterOfTwoLines twoLines volumeOfTwoLines hb hlen hplain hgzip hp
  exact ⟨h.1, by decide +kernel⟩

end Splitter

end SubtreePartition
