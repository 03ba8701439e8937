import SubtreePartition.Proofs.Splitter.Lossless

namespace SubtreePartition.Splitter

variable {s : Splitter} {t t' : FileTree} {log : Log} {p : Pass} {lines : Store.Stream} {r : Run}
  {l : Location}

/-- What a run on `t` may do to one place. -/
inductive Effect (s : Splitter) (t : FileTree) (r : Run) (l : Location) : Prop where
  | kept (same : r.tree.find? l = t.find? l) : Effect s t r l
  | made (q : FilePath) (before : t.find? l = none) (after : r.tree.find? l = some .directory)
      (above : q.IsAbove s.settings.workDir) (place : r.tree.locate q = .ok l) : Effect s t r l
  | written (q : Partition) (content : Bytes) (before : t.find? l ≠ some .directory)
      (after : r.tree.find? l = some (.file content)) (opened : q ∈ r.partitions)
      (place : r.tree.locate q.path = .ok l) (other : t.locate s.source ≠ .ok l) : Effect s t r l
  | removed (content : Bytes) (before : t.find? l = some (.file content))
      (after : r.tree.find? l = none) (place : t.locate s.source = .ok l)
      (wanted : s.settings.deleteSource = true) (outcome : r.outcome = .split)
      (phase : r.phase = .done) : Effect s t r l

structure Frame (s : Splitter) (t : FileTree) (r : Run) : Prop where
  source : ∀ l content, t.locate s.source = .ok l → t.find? l = some (.file content) →
    r.tree.find? l = some (.file content) ∨
      (r.tree.find? l = none ∧ s.settings.deleteSource = true ∧ r.outcome = .split ∧
        r.phase = .done)
  present : ∀ l content, t.locate s.source ≠ .ok l → t.find? l = some (.file content) →
    ∃ content', r.tree.find? l = some (.file content')
  files : ∀ l content, t.locate s.source ≠ .ok l →
    (∀ q ∈ r.partitions, r.tree.locate q.path ≠ .ok l) →
      (r.tree.find? l = some (.file content) ↔ t.find? l = some (.file content))
  directories : ∀ l, r.tree.find? l = some .directory → t.find? l = some .directory ∨
    ∃ q : FilePath, q.IsAbove s.settings.workDir ∧ r.tree.locate q = .ok l
  kept : ∀ l, t.find? l = some .directory → r.tree.find? l = some .directory

theorem frame_of_effect (h : ∀ l, Effect s t r l) : s.Frame t r where
  source := by
    intro l content hl hf
    cases h l with
    | kept same => exact .inl (same.trans hf)
    | made _ before => simp [hf] at before
    | written _ _ _ _ _ _ other => exact absurd hl other
    | removed _ _ after _ wanted outcome phase => exact .inr ⟨after, wanted, outcome, phase⟩
  present := by
    intro l content hl hf
    cases h l with
    | kept same => exact ⟨content, same.trans hf⟩
    | made _ before => simp [hf] at before
    | written _ content' _ after => exact ⟨content', after⟩
    | removed _ _ _ place => exact absurd place hl
  files := by
    intro l content hl hq
    cases h l with
    | kept same => rw [same]
    | made _ before after => simp [before, after]
    | written q _ _ _ opened place => exact absurd place (hq q opened)
    | removed _ _ _ place => exact absurd place hl
  directories := by
    intro l hd
    cases h l with
    | kept same => exact .inl (same.symm.trans hd)
    | made q _ _ above place => exact .inr ⟨q, above, place⟩
    | written _ _ _ after => simp [hd] at after
    | removed _ _ after => simp [hd] at after
  kept := by
    intro l hd
    cases h l with
    | kept same => exact same.trans hd
    | made _ before => simp [hd] at before
    | written _ _ before => exact absurd hd before
    | removed _ before => simp [hd] at before

theorem Frame.of_resolved (h : s.resolved.Frame t r) : s.Frame t r :=
  ⟨h.source, h.present, h.files, h.directories, h.kept⟩

theorem effect_of_stopsEarly (h : s.StopsEarly t r) (l : Location) : Effect s t r l := by
  obtain ⟨s', t', outcome, phases, log, rfl, -, rfl | ⟨fault, hm⟩⟩ := h
  · exact .kept rfl
  · rcases FileTree.keptOrMade_makeDirectories hm l with hk | ⟨hn, hd, q, hq, hl⟩
    · exact .kept hk
    · exact .made q hn hd hq hl

theorem effect_of_publication {bytes : Bytes} {fault : Option FileFault} (ht : t.WellFormed)
    (hm : t.makeDirectories s.settings.workDir = (t', fault)) (hb : t.read s.source = .ok bytes)
    (htree : r.tree = (s.publication t' p lines).tree)
    (hparts : r.partitions = (s.publication t' p lines).partitions) (l : Location) :
    Effect s t r l := by
  obtain ⟨written, hw, hcases⟩ := s.target.published_publish t' (groups p lines)
  have hfilled : ∀ q ∈ s.target.filledFrom 1 written, q ∈ r.partitions := by
    intro q hq
    rw [hparts]
    rcases hcases with ⟨-, -, hp⟩ | ⟨_, _, _, -, -, -, hp⟩
    · exact hp ▸ hq
    · exact hp ▸ List.mem_append_left _ hq
  have hmade := FileTree.keptOrMade_makeDirectories hm l
  change Target.Writes _ _ _ _ (s.publication t' p lines).tree at hw
  rw [← htree] at hw
  rcases hw.find?_cases l with hsame | ⟨hnd, here, k, g, hk, hplace, hloc, hfile⟩
  · rcases hmade with hkept | ⟨hn, hd, q, hq, hl⟩
    · exact .kept (hsame.trans hkept)
    · exact .made q hn (hsame.trans hd) hq (hw.keepsDirectories.locate hl)
  · obtain ⟨q, hq, hpath⟩ := s.target.exists_mem_filledFrom 1 hk
    have hbefore : t.find? l ≠ some .directory := by
      intro hd
      exact hnd ((FileTree.extends_makeDirectories hm).find? l _ hd)
    refine .written q _ hbefore hfile (hfilled q hq) (hpath ▸ hloc) fun hl => ?_
    obtain ⟨place, hl', hf⟩ := FileTree.read_eq_ok_iff_file.mp hb
    obtain rfl := Except.ok.inj (hl.symm.trans hl')
    exact source_ne_place ht hl hf (1 + k) hplace

theorem effect_of_remove {mid : FileTree} {bytes : Bytes} (hk : t.KeepsDirectories mid)
    (hb : t.read s.source = .ok bytes) (he : Effect s t { r with tree := mid } l)
    (hr : mid.remove s.source = .ok r.tree) (hd : s.settings.deleteSource = true)
    (ho : r.outcome = .split) (hp : r.phase = .done) : Effect s t r l := by
  obtain ⟨place, hl, hf⟩ := FileTree.read_eq_ok_iff_file.mp hb
  have hfind := FileTree.find?_remove (m := l) hr (hk.locate hl)
  have hkeep := FileTree.keepsDirectories_remove hr
  by_cases hpl : place = l
  · subst hpl
    exact .removed bytes hf (by rw [hfind, if_pos rfl]) hl hd ho hp
  · rw [if_neg hpl] at hfind
    cases he with
    | kept same => exact .kept (hfind.trans same)
    | made q before after above at' =>
      exact .made q before (hfind.trans after) above (hkeep.locate at')
    | written q content before after opened at' other =>
      exact .written q content before (hfind.trans after) opened (hkeep.locate at') other
    | removed content before after at' wanted outcome phase =>
      exact .removed content before (hfind.trans after) at' wanted outcome phase

theorem effect_writeOut {bytes : Bytes} {fault : Option FileFault} (ht : t.WellFormed)
    (hm : t.makeDirectories s.settings.workDir = (t', fault)) (hb : t.read s.source = .ok bytes)
    (l : Location) : Effect s t (s.writeOut t' log p lines) l := by
  have hp := s.writeOut_partitions t' log p lines
  rcases s.writeOut_tree t' log p lines with htree | ⟨hr, hd, ho, hphase⟩
  · exact effect_of_publication ht hm hb htree hp l
  · obtain ⟨written, hw, -⟩ := s.target.published_publish t' (groups p lines)
    have hk := (FileTree.extends_makeDirectories hm).keepsDirectories.trans hw.keepsDirectories
    let published : Run :=
      { s.writeOut t' log p lines with tree := (s.publication t' p lines).tree }
    have hparts : published.partitions = (s.publication t' p lines).partitions := hp
    have he : Effect s t published l := effect_of_publication ht hm hb rfl hparts l
    exact effect_of_remove hk hb he hr hd ho hphase

theorem run_frame (s : Splitter) (t : Volume) : s.Frame t (s.run t) := by
  rcases s.run_stages t with h | ⟨size, t', bytes, hb⟩
  · exact frame_of_effect (effect_of_stopsEarly h)
  · have hread : t.read s.resolved.source = .ok bytes := hb.read
    have hm : t.makeDirectories s.resolved.settings.workDir = (t', none) := hb.directory
    rw [hb.run_eq]
    exact (frame_of_effect (effect_writeOut t.wellFormed hm hread)).of_resolved

def treeOfOrphan : FileTree :=
  { nodes :=
      [(["store"], .file (Utf8.encode "/a|{}\n/b|{}\n/x/y|{}")),
        (["split-1-store"], .file [7]), (["split-3-store"], .file [8])] }

def volumeOfOrphan : Volume :=
  ⟨treeOfOrphan, FileTree.wellFormed_of_nodes (by decide) (by decide)⟩

def splitterOfOrphan : Splitter :=
  { source := ⟨1, ["store"]⟩
    settings :=
      { workDir := ⟨1, []⟩
        minSplitSize := 0
        thresholdOverride := some 0
        compression := .none
        deleteSource := true }
    boundaries := .fixed .empty }

example :
    (splitterOfOrphan.run volumeOfOrphan).phase = .streaming ∧
      (splitterOfOrphan.run volumeOfOrphan).partitions.length = 2 := by
  decide +kernel

end SubtreePartition.Splitter
