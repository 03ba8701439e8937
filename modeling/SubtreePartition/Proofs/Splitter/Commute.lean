import SubtreePartition.Proofs.FileTree.Again
import SubtreePartition.Proofs.Splitter.Again
import SubtreePartition.Proofs.Splitter.InStep
import SubtreePartition.Proofs.Splitter.Kept

namespace SubtreePartition

structure Answer where
  returned : Option (List FilePath)
  outcome : Outcome
  phases : List Phase
  partitions : List Partition
  deriving DecidableEq

namespace Run

variable {R : FileTree → FileTree → Prop} {r r' : Run}

def answer (r : Run) : Answer :=
  ⟨r.returned, r.outcome, r.phases, r.partitions⟩

theorem InStep.answer (h : r.InStep R r') : r'.answer = r.answer := by
  have hp : r'.paths = r.paths := by rw [Run.paths, Run.paths, h.outcome, h.partitions, h.source]
  rw [Run.answer, Run.answer, Run.returned, Run.returned, h.outcome, hp, h.phases, h.partitions]

end Run

def Target.HasPlace (g : Target) (t : FileTree) (l : Location) : Prop :=
  ∃ k, t.locate (g.path (k + 1)) = .ok l

namespace Splitter

variable {a b s : Splitter} {t u : FileTree} {l : Location} {log : Log} {p : Pass} {bytes : Bytes}
  {size : Nat}

def Touches (s : Splitter) (t : FileTree) (l : Location) : Prop :=
  t.locate s.source = .ok l ∨ s.target.HasPlace t l

theorem not_hasPlace_source {content : Bytes} (ht : t.WellFormed) (hl : t.locate s.source = .ok l)
    (hf : t.find? l = some (.file content)) : ¬ s.target.HasPlace t l := by
  rintro ⟨k, hk⟩
  obtain ⟨here, -, hplace⟩ := Target.locate_path hk
  exact source_ne_place ht hl hf (k + 1) hplace

theorem inStep_of_sameDirectories {content content' : Bytes} (ht : t.WellFormed)
    (hd : t.get s.settings.workDir = .ok .directory) (hs : t.SameDirectories u)
    (hl : t.locate s.source = .ok l) (hft : t.find? l = some (.file content))
    (hfu : u.find? l = some (.file content')) :
    s.InStep (FileTree.ChangedAlike (s.target.HasPlace t) t u)
      (FileTree.ChangedAlike (s.Touches t) t u) s where
  source := rfl
  deleteSource := rfl
  target :=
    { path := rfl
      write := by
        intro t' u' k lines h
        have hdirs := h.sameDirectories hs
        have hplace := h.left.locate_child hd (s.target.fileName (k + 1))
        have hsame := hdirs.locate_child (h.left.get hd) (s.target.fileName (k + 1))
        have hwrite := FileTree.goesAlike_write (P := s.target.HasPlace t) hdirs hsame
          (fun l hl => ⟨k, hplace.symm.trans hl⟩) (Store.encode s.settings.compression lines.flatten)
        exact hwrite.mono fun _ _ h' => h.trans h' }
  remove := by
    intro t' u' h
    have hkept := h.kept (not_hasPlace_source ht hl hft)
    have hu := hs.keepsDirectories.locate hl
    have hremove := FileTree.goesAlike_remove (P := s.Touches t)
      (h.left.keepsDirectories.locate hl) (h.symm.left.keepsDirectories.locate hu)
      (hkept.1.trans hft) (hkept.2.trans hfu) (.inl hl)
    exact hremove.mono fun _ _ h' => (h.mono fun _ => .inr).trans h'
  weaken := fun _ _ h => h.mono fun _ => .inr

theorem inStep_run (ht : t.WellFormed) (hm : t.makeDirectories s.settings.workDir = (t, none))
    (hs : t.SameDirectories u) (hl : t.locate s.source = .ok l)
    (hft : t.find? l = some (.file bytes)) (hfu : u.find? l = some (.file bytes)) :
    (s.run t).InStep (FileTree.ChangedAlike (s.Touches t) t u) (s.run u) := by
  have hd := FileTree.get_makeDirectoriesWith hm
  have hget : t.get s.source = u.get s.source := by
    rw [FileTree.get_eq_ok_iff.mpr ⟨l, hl, hft⟩,
      FileTree.get_eq_ok_iff.mpr ⟨l, hs.keepsDirectories.locate hl, hfu⟩]
  have hread : u.read s.source = t.read s.source := by rw [FileTree.read, FileTree.read, hget]
  have hm' : u.makeDirectories s.settings.workDir = (u, none) :=
    FileTree.makeDirectories_of_directory hm hs.keepsDirectories
  have hstop {s' s'' : Splitter} (outcome : Outcome) (phases : List Phase) (log : Log)
      (h : s''.source = s'.source) :
      (s'.stop t outcome phases log).InStep (FileTree.ChangedAlike (s.Touches t) t u)
        (s''.stop u outcome phases log) :=
    inStep_stop (.refl _ t u) h outcome phases log
  have hstep : s.resolved.InStep (FileTree.ChangedAlike (s.target.HasPlace t) t u)
      (FileTree.ChangedAlike (s.Touches t) t u) s.resolved :=
    inStep_of_sameDirectories (s := s.resolved) ht hd hs hl hft hfu
  simp only [run, Store.size_congr s.settings.compression hget]
  cases Store.size s.settings.compression u s.source with
  | error fault => cases fault <;> exact hstop _ _ _ rfl
  | ok size =>
    simp only [runSized]
    split
    · exact hstop _ _ _ rfl
    · split
      · exact hstop _ _ _ rfl
      · simp only [partitionInto, hm, hm', stream, hread]
        cases t.read s.source with
        | error fault => exact hstop _ _ _ rfl
        | ok bytes => exact hstep.writeOut (.refl _ t u) _ _ _

theorem answer_run_prepared (h : t.read s.source = .ok bytes) :
    (s.run (t.prepared s.settings.workDir)).answer = (s.run t).answer := by
  have hsize := Store.size_congr s.settings.compression
    (FileTree.get_prepared h s.settings.workDir)
  simp only [run, hsize]
  cases Store.size s.settings.compression t s.source with
  | error fault => cases fault <;> rfl
  | ok size =>
    simp only [runSized]
    split
    · rfl
    · split
      · rfl
      · rcases hm : t.makeDirectories s.settings.workDir with ⟨t', _ | fault⟩
        · have hagain := FileTree.makeDirectories_of_directory hm (.refl t')
          simp only [FileTree.prepared, partitionInto, hm, hagain]
        · cases hf : fault.isSystem with
          | true =>
            obtain ⟨fault', hagain, hf'⟩ := FileTree.makeDirectories_again hm
            rw [hf] at hf'
            simp only [FileTree.prepared, partitionInto, hm, hagain, hf, hf', if_true]
            rfl
          | false =>
            obtain rfl := FileTree.tree_of_not_isSystem hm hf
            simp only [FileTree.prepared, hm]

theorem Reaches.congr (h : s.Reaches t size) (hg : t.get s.source = u.get s.source) :
    s.Reaches u size :=
  ⟨Store.size_congr s.settings.compression hg ▸ h.size, h.necessary, h.base⟩

theorem Reaches.tree_run (h : s.Reaches t size) :
    (s.run t).tree = (s.run (t.prepared s.settings.workDir)).tree := by
  rw [h.run_eq, (h.extend (t.extends_prepared s.settings.workDir)).run_eq]
  have hd : s.resolved.settings.workDir = s.settings.workDir := rfl
  rcases hm : t.makeDirectories s.settings.workDir with ⟨t', _ | fault⟩
  · have hagain := FileTree.makeDirectories_of_directory hm (.refl t')
    simp only [FileTree.prepared, partitionInto, hd, hm, hagain]
  · obtain ⟨fault', hagain, hf'⟩ := FileTree.makeDirectories_again hm
    simp only [FileTree.prepared, partitionInto, hd, hm, hagain, hf']
    split <;> rfl

theorem tree_run_of_not_reaches (h : ∀ size, ¬ s.Reaches t size) : (s.run t).tree = t := by
  cases s.stage_run t with
  | unsized fault stated run => exact run ▸ rfl
  | needless size log stated unnecessary run => exact run ▸ rfl
  | protecting size base stated necessary isBase run => exact run ▸ rfl
  | blocked size t' fault log reaches makes system run => exact absurd reaches (h size)
  | unnamed size t' fault reaches makes system run => exact absurd reaches (h size)
  | unread size t' fault reaches makes reads run => exact absurd reaches (h size)
  | begins size t' bytes begins run =>
    exact absurd ⟨begins.size, begins.necessary, begins.base⟩ (h size)

theorem tree_run_of_blocked {fault : FileFault}
    (hm : t.makeDirectories s.settings.workDir = (t, some fault)) : (s.run t).tree = t := by
  cases s.stage_run t with
  | unsized fault' stated run => exact run ▸ rfl
  | needless size log stated unnecessary run => exact run ▸ rfl
  | protecting size base stated necessary isBase run => exact run ▸ rfl
  | blocked size t' fault' log reaches makes system run =>
    rw [run]
    exact congrArg Prod.fst (makes.symm.trans hm)
  | unnamed size t' fault' reaches makes system run =>
    rw [run]
    exact congrArg Prod.fst (makes.symm.trans hm)
  | unread size t' fault' reaches makes reads run => cases congrArg Prod.snd (makes.symm.trans hm)
  | begins size t' bytes begins run => cases congrArg Prod.snd (begins.directory.symm.trans hm)

theorem prepared_run_of_prepared {w : FilePath} (hw : s.settings.workDir = w)
    (h : t.prepared w = t) : (s.run t).tree.prepared w = (s.run t).tree := by
  subst hw
  rcases FileTree.makeDirectories_of_prepared h with hm | ⟨fault, hm⟩
  · have hk := s.keeps_run (FileTree.kept_keepsDirectories t) (.refl t)
    rw [FileTree.prepared, FileTree.makeDirectories_of_directory hm hk]
  · rw [tree_run_of_blocked hm, h]

theorem prepared_run {w : FilePath} (hw : s.settings.workDir = w) (h : t.read s.source = .ok bytes) :
    (s.run t).tree.prepared w = (s.run (t.prepared w)).tree := by
  subst hw
  have hsettled := prepared_run_of_prepared rfl (t.prepared_prepared s.settings.workDir)
  by_cases hr : ∃ size, s.Reaches t size
  · obtain ⟨size, hr⟩ := hr
    rw [hr.tree_run, hsettled]
  · have hget := FileTree.get_prepared h s.settings.workDir
    have hr' : ∀ size, ¬ s.Reaches (t.prepared s.settings.workDir) size :=
      fun size h' => hr ⟨size, h'.congr hget⟩
    rw [tree_run_of_not_reaches fun size h' => hr ⟨size, h'⟩, tree_run_of_not_reaches hr']

def Spares (a b : Splitter) (t : FileTree) : Prop :=
  ∀ l, t.locate b.source = .ok l → ¬ a.target.HasPlace (t.prepared a.settings.workDir) l

theorem Spares.prepared {w : FilePath} (h : a.Spares b t) (hw : a.settings.workDir = w)
    (hb : t.read b.source = .ok bytes) : a.Spares b (t.prepared w) := by
  subst hw
  intro l hl
  rw [FileTree.prepared_prepared]
  obtain ⟨place, hplace, -⟩ := FileTree.read_eq_ok_iff_file.mp hb
  have hl' := (t.extends_prepared a.settings.workDir).keepsDirectories.locate hplace
  obtain rfl : l = place := Except.ok.inj (hl.symm.trans hl')
  exact h l hplace

/-- Two splitters with one work directory whose sources are different files, and neither of them the
file of a partition of the other. -/
structure Independent (a b : Splitter) (t : FileTree) : Prop where
  workDir : a.settings.workDir = b.settings.workDir
  names : a.source.name ≠ b.source.name
  reads : ∃ bytes, t.read a.source = .ok bytes
  reads' : ∃ bytes, t.read b.source = .ok bytes
  spares : a.Spares b t
  spares' : b.Spares a t

namespace Independent

theorem symm (h : a.Independent b t) : b.Independent a t :=
  ⟨h.workDir.symm, h.names.symm, h.reads', h.reads, h.spares', h.spares⟩

theorem prepared (h : a.Independent b t) : a.Independent b (t.prepared a.settings.workDir) where
  workDir := h.workDir
  names := h.names
  reads := h.reads.imp fun _ hr => (t.extends_prepared a.settings.workDir).read hr
  reads' := h.reads'.imp fun _ hr => (t.extends_prepared a.settings.workDir).read hr
  spares := by
    obtain ⟨bytes, hb⟩ := h.reads'
    exact h.spares.prepared rfl hb
  spares' := by
    obtain ⟨bytes, ha⟩ := h.reads
    exact h.spares'.prepared h.workDir.symm ha

theorem not_touches (h : a.Independent b t) (ht : t.WellFormed)
    (hw : t.prepared a.settings.workDir = t) (ha : a.Touches t l) : ¬ b.Touches t l := by
  intro hb
  -- A place that both runs could change would be that of two files at once.
  have hw' : t.prepared b.settings.workDir = t := h.workDir ▸ hw
  rcases ha with ha | ha
  · rcases hb with hb | hb
    · obtain ⟨bytes, hr⟩ := h.reads
      obtain ⟨place, hplace, hf⟩ := FileTree.read_eq_ok_iff_file.mp hr
      obtain rfl : l = place := Except.ok.inj (ha.symm.trans hplace)
      obtain ⟨here, hl⟩ := ht.locate_file ha hf
      obtain ⟨there, hl'⟩ := ht.locate_file hb hf
      exact h.names (FileTree.last_inj (hl.symm.trans hl'))
    · exact h.spares' l ha (hw'.symm ▸ hb)
  · rcases hb with hb | ⟨j, hb⟩
    · exact h.spares l hb (hw.symm ▸ ha)
    · obtain ⟨i, ha⟩ := ha
      obtain ⟨here, -, hl⟩ := Target.locate_path ha
      obtain ⟨there, -, hl'⟩ := Target.locate_path hb
      have hn : a.target.fileName (i + 1) = b.target.fileName (j + 1) :=
        FileTree.last_inj (hl.symm.trans hl')
      exact h.names (FilePath.partitionName_inj.mp hn).2

theorem find?_source (h : a.Independent b t) (ht : t.WellFormed)
    (hw : t.prepared a.settings.workDir = t) (hl : t.locate b.source = .ok l) :
    (a.run t).tree.find? l = t.find? l := by
  rcases FileTree.makeDirectories_of_prepared hw with hm | ⟨fault, hm⟩
  · obtain ⟨bytes, ha⟩ := h.reads
    obtain ⟨place, hplace, hf⟩ := FileTree.read_eq_ok_iff_file.mp ha
    have hframe := (Splitter.inStep_run ht hm (.refl t) hplace hf hf).trees
    exact (hframe.kept (h.symm.not_touches ht (h.workDir ▸ hw) (.inl hl))).1
  · rw [tree_run_of_blocked hm]

theorem inStep_run (h : a.Independent b t) (ht : t.WellFormed)
    (hm : t.makeDirectories a.settings.workDir = (t, none)) :
    (b.run t).InStep (FileTree.ChangedAlike (b.Touches t) t (a.run t).tree)
      (b.run (a.run t).tree) := by
  obtain ⟨bytes, ha⟩ := h.reads
  obtain ⟨bytes', hb⟩ := h.reads'
  obtain ⟨l, hl, hf⟩ := FileTree.read_eq_ok_iff_file.mp ha
  obtain ⟨l', hl', hf'⟩ := FileTree.read_eq_ok_iff_file.mp hb
  have hframe := (Splitter.inStep_run ht hm (.refl t) hl hf hf).trees
  have hkept := h.find?_source ht (congrArg Prod.fst hm) hl'
  exact Splitter.inStep_run ht (h.workDir ▸ hm) hframe.left hl' hf' (hkept.trans hf')

theorem run_prepared (h : a.Independent b t) (ht : t.WellFormed)
    (hw : t.prepared a.settings.workDir = t) :
    (b.run (a.run t).tree).answer = (b.run t).answer ∧
      (a.run (b.run t).tree).answer = (a.run t).answer ∧
        (b.run (a.run t).tree).tree.Same (a.run (b.run t).tree).tree := by
  rcases FileTree.makeDirectories_of_prepared hw with hm | ⟨fault, hm⟩
  · have hb := h.inStep_run ht hm
    have ha := h.symm.inStep_run ht (h.workDir ▸ hm)
    exact ⟨hb.answer, ha.answer, ha.trees.comm (fun _ => h.not_touches ht hw) hb.trees⟩
  · have ha := tree_run_of_blocked hm
    have hb := tree_run_of_blocked (s := b) (h.workDir ▸ hm)
    rw [ha, hb, ha]
    exact ⟨rfl, rfl, rfl, fun _ => rfl⟩

theorem get_source (h : a.Independent b t) (ht : t.WellFormed) :
    (a.run t).tree.get b.source = t.get b.source := by
  by_cases hr : ∃ size, a.Reaches t size
  · obtain ⟨size, hr⟩ := hr
    obtain ⟨bytes, hb⟩ := h.reads'
    have hwell := ht.prepared a.settings.workDir
    have hsettled := t.prepared_prepared a.settings.workDir
    obtain ⟨l, hl, hf⟩ := FileTree.read_eq_ok_iff_file.mp
      ((t.extends_prepared a.settings.workDir).read hb)
    have hkeep := a.keeps_run (FileTree.kept_keepsDirectories _)
      (.refl (t.prepared a.settings.workDir))
    rw [hr.tree_run, FileTree.read_eq_ok_iff.mp hb]
    exact FileTree.get_eq_ok_iff.mpr
      ⟨l, hkeep.locate hl, (h.prepared.find?_source hwell hsettled hl).trans hf⟩
  · rw [tree_run_of_not_reaches fun size hs => hr ⟨size, hs⟩]

theorem read_source (h : a.Independent b t) (ht : t.WellFormed) :
    ∃ bytes, (a.run t).tree.read b.source = .ok bytes := by
  obtain ⟨bytes, hb⟩ := h.reads'
  refine ⟨bytes, FileTree.read_eq_ok_iff.mpr ?_⟩
  rw [h.get_source ht, FileTree.read_eq_ok_iff.mp hb]

theorem tree_run_run (h : a.Independent b t) (ht : t.WellFormed)
    (hr : ∃ size, a.Reaches t size ∨ b.Reaches t size) :
    (b.run (a.run t).tree).tree =
      (b.run (a.run (t.prepared a.settings.workDir)).tree).tree := by
  obtain ⟨bytes, ha⟩ := h.reads
  have hprepared : (a.run t).tree.prepared b.settings.workDir = _ := prepared_run h.workDir ha
  rw [← h.workDir] at hprepared
  by_cases hb : ∃ size, b.Reaches t size
  · obtain ⟨size, hb⟩ := hb
    have hb' : b.Reaches (a.run t).tree size := hb.congr (h.get_source ht).symm
    rw [hb'.tree_run, ← h.workDir, hprepared]
  · obtain ⟨size, hr⟩ := hr
    have ha := hr.resolve_right fun hs => hb ⟨size, hs⟩
    rw [ha.tree_run]

theorem answer_run_run (h : a.Independent b t) (ht : t.WellFormed) :
    (b.run (a.run t).tree).answer = (b.run t).answer := by
  obtain ⟨bytes, ha⟩ := h.reads
  obtain ⟨bytes', hb⟩ := h.reads'
  obtain ⟨bytes'', hb''⟩ := h.read_source ht
  have hsettled := t.prepared_prepared a.settings.workDir
  have hsame := (h.prepared.run_prepared (ht.prepared a.settings.workDir) hsettled).1
  calc (b.run (a.run t).tree).answer
      = (b.run ((a.run t).tree.prepared b.settings.workDir)).answer :=
        (answer_run_prepared hb'').symm
    _ = (b.run (a.run (t.prepared a.settings.workDir)).tree).answer := by
        rw [prepared_run h.workDir ha, h.workDir]
    _ = (b.run (t.prepared a.settings.workDir)).answer := hsame
    _ = (b.run t).answer := by rw [h.workDir, answer_run_prepared hb]

end Independent

theorem run_comm (t : Volume) (h : a.Independent b t) :
    (b.run (a.run t).tree).answer = (b.run t).answer ∧
      (a.run (b.run t).tree).answer = (a.run t).answer ∧
        (b.run (a.run t).tree).tree.Same (a.run (b.run t).tree).tree := by
  refine ⟨h.answer_run_run t.wellFormed, h.symm.answer_run_run t.wellFormed, ?_⟩
  by_cases hr : ∃ size, a.Reaches t size ∨ b.Reaches t size
  · have hr' : ∃ size, b.Reaches t size ∨ a.Reaches t size := hr.imp fun _ => Or.symm
    have hsettled := t.prepared_prepared a.settings.workDir
    rw [h.tree_run_run t.wellFormed hr, h.symm.tree_run_run t.wellFormed hr', ← h.workDir]
    exact (h.prepared.run_prepared (t.wellFormed.prepared a.settings.workDir) hsettled).2.2
  · -- Neither run comes to the work directory, so that neither changes anything.
    have ha : (a.run t).tree = t := tree_run_of_not_reaches fun size hs => hr ⟨size, .inl hs⟩
    have hb : (b.run t).tree = t := tree_run_of_not_reaches fun size hs => hr ⟨size, .inr hs⟩
    rw [ha, hb, ha]
    exact ⟨rfl, fun _ => rfl⟩

theorem spares_of_name (ht : t.WellFormed) (hb : t.read b.source = .ok bytes)
    (hn : ¬ Text.ofString "split-" <+: b.source.name) (a : Splitter) : a.Spares b t := by
  rintro l hl ⟨k, hk⟩
  obtain ⟨place, hplace, hf⟩ := FileTree.read_eq_ok_iff_file.mp hb
  obtain rfl : l = place := Except.ok.inj (hl.symm.trans hplace)
  obtain ⟨here, hsource⟩ := ht.locate_file hl hf
  obtain ⟨there, -, hpartition⟩ := Target.locate_path hk
  have hname : b.source.name = a.target.fileName (k + 1) :=
    FileTree.last_inj (hsource.symm.trans hpartition)
  apply hn
  rw [hname]
  exact FilePath.prefix_partitionName _ _

def treeOfTwoStores : FileTree :=
  { nodes :=
      [(["store"], .file twoLines), (["2-store"], .file (Utf8.encode "/a|{}\nb")),
        (["split-1-2-store"], .file [7])] }

def volumeOfTwoStores : Volume :=
  ⟨treeOfTwoStores, FileTree.wellFormed_of_nodes (by decide) (by decide)⟩

def splitterOfSecondStore : Splitter :=
  { splitterOfTwoLines with source := ⟨1, ["2-store"]⟩ }

theorem run_comm_two_stores :
    splitterOfTwoLines.Independent splitterOfSecondStore volumeOfTwoStores ∧
      (splitterOfTwoLines.run volumeOfTwoStores).outcome = .split ∧
      (splitterOfSecondStore.run volumeOfTwoStores).returned = none ∧
      (splitterOfSecondStore.run (splitterOfTwoLines.run volumeOfTwoStores).tree).answer =
        (splitterOfSecondStore.run volumeOfTwoStores).answer ∧
      (splitterOfTwoLines.run (splitterOfSecondStore.run volumeOfTwoStores).tree).answer =
        (splitterOfTwoLines.run volumeOfTwoStores).answer ∧
      (splitterOfSecondStore.run (splitterOfTwoLines.run volumeOfTwoStores).tree).tree.Same
        (splitterOfTwoLines.run (splitterOfSecondStore.run volumeOfTwoStores).tree).tree := by
  have ha : volumeOfTwoStores.read splitterOfTwoLines.source = .ok twoLines := by decide +kernel
  have hb : volumeOfTwoStores.read splitterOfSecondStore.source =
      .ok (Utf8.encode "/a|{}\nb") := by decide +kernel
  have h : splitterOfTwoLines.Independent splitterOfSecondStore volumeOfTwoStores :=
    { workDir := rfl
      names := by decide
      reads := ⟨_, ha⟩
      reads' := ⟨_, hb⟩
      spares := spares_of_name volumeOfTwoStores.wellFormed hb (by decide) _
      spares' := spares_of_name volumeOfTwoStores.wellFormed ha (by decide) _ }
  refine ⟨h, by decide +kernel, by decide +kernel, ?_⟩
  exact run_comm volumeOfTwoStores h

end Splitter

end SubtreePartition
