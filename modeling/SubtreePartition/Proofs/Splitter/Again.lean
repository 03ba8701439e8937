import SubtreePartition.Proofs.FileTree.Again
import SubtreePartition.Proofs.Splitter.Run
import SubtreePartition.Proofs.Splitter.Lossless

namespace SubtreePartition

theorem Resolver.resolve_again (r : Resolver) :
    r.resolve.2.2.resolve = (r.resolve.1, [], r.resolve.2.2) := by
  obtain ⟨definitions, hierarchy, resolved⟩ := r
  cases resolved <;> rfl

theorem Boundaries.resolve_again (b : Boundaries) :
    b.resolve.2.2.resolve = (b.resolve.1, [], b.resolve.2.2) := by
  cases b with
  | fixed categories => rfl
  | derived r =>
    have h := r.resolve_again
    simp only [resolve, h]

namespace Target

variable {g : Target} {t u : FileTree} {index : Nat} {lines : List Bytes}
  {rest : List (List Bytes)}

theorem Writes.writeLines_self (h : Writes g t index (lines :: rest) u) :
    g.writeLines u index lines = .ok u := by
  obtain ⟨here, hh⟩ := h.leadsTo (by simp)
  exact FileTree.write_self (h.read_path (k := 0) hh rfl)

theorem publishFrom_again (t : FileTree) (last : Partition) (line : Nat)
    (groups : List (List Bytes)) :
    g.publishFrom (g.publishFrom t last line groups).tree last line groups =
      g.publishFrom t last line groups := by
  induction groups generalizing t last line with
  | nil => rfl
  | cons lines rest ih =>
    cases hw : g.writeLines t (last.index + 1) lines with
    | error fault => simp only [publishFrom, hw]
    | ok mid =>
      obtain ⟨written, hwrites, -⟩ := g.published_publishFrom mid
        (g.filled (last.index + 1) lines) (line + last.records) rest
      -- The later partitions have other names, so this one still holds what would be written.
      have hself := (Writes.cons hw hwrites).writeLines_self
      have hnext := ih mid (g.filled (last.index + 1) lines) (line + last.records)
      simp only [publishFrom, hw, hself, hnext]

theorem publish_again (t : FileTree) (groups : List (List Bytes)) :
    g.publish (g.publish t groups).tree groups = g.publish t groups := by
  cases groups with
  | nil => rfl
  | cons lines rest =>
    cases hw : g.writeLines t 1 lines with
    | error fault => simp only [publish, hw]
    | ok mid =>
      obtain ⟨written, hwrites, -⟩ := g.published_publishFrom mid (g.filled 1 lines) 0 rest
      have hself := (Writes.cons hw hwrites).writeLines_self
      have hnext := publishFrom_again (g := g) mid (g.filled 1 lines) 0 rest
      simp only [publish, hw, hself, hnext]

end Target

def Run.returned (r : Run) : Option (List FilePath) :=
  match r.outcome with
  | .failed _ => none
  | _ => some r.paths

structure Result where
  returned : Option (List FilePath)
  outcome : Outcome
  phases : List Phase
  partitions : List Partition
  tree : FileTree
  deriving DecidableEq

namespace Run

def result (r : Run) : Result :=
  ⟨r.returned, r.outcome, r.phases, r.partitions, r.tree⟩

def RemovesSource (t : FileTree) (r : Run) : Prop :=
  ∃ bytes, t.read r.splitter.source = .ok bytes ∧
    ∀ bytes', r.tree.read r.splitter.source ≠ .ok bytes'

end Run

namespace Splitter

variable {s : Splitter} {t t' u : FileTree} {size : Nat} {bytes : Bytes}

theorem resolved_resolved (s : Splitter) : s.resolved.resolved = s.resolved := by
  have h := s.boundaries.resolve_again
  simp only [resolved, h]

def IsUsed (s s' : Splitter) : Prop :=
  s' = s ∨ s' = s.resolved

theorem writeOut_splitter (s : Splitter) (t : FileTree) (log : Log) (p : Pass)
    (lines : Store.Stream) : (s.writeOut t log p lines).splitter = s := by
  cases s.ending_writeOut t log p lines with
  | unopened fault publishes run => exact run ▸ rfl
  | rejected rejection publishes accepts run => exact run ▸ rfl
  | interrupted fault publishes accepts reads run => exact run ▸ rfl
  | finished publishes accepts reads run =>
    rw [run, finish]
    split
    · split <;> rfl
    · rfl

theorem isUsed_run (s : Splitter) (t : FileTree) : s.IsUsed (s.run t).splitter := by
  cases s.stage_run t with
  | unsized fault stated run => exact .inl (by rw [run]; rfl)
  | needless size log stated unnecessary run => exact .inl (by rw [run]; rfl)
  | protecting size base stated necessary isBase run => exact .inr (by rw [run]; rfl)
  | blocked size t' fault log reaches makes system run => exact .inr (by rw [run]; rfl)
  | unnamed size t' fault reaches makes system run => exact .inr (by rw [run]; rfl)
  | unread size t' fault reaches makes reads run => exact .inr (by rw [run]; rfl)
  | begins size t' bytes begins run => exact .inr (by rw [run, writeOut_splitter])

theorem Reaches.extend (h : s.Reaches t size) (he : t.Extends t') : s.Reaches t' size :=
  ⟨Store.size_of_extends h.size he, h.necessary, h.base⟩

theorem IsUsed.source {s' : Splitter} (h : s.IsUsed s') : s'.source = s.source := by
  obtain rfl | rfl := h <;> rfl

theorem writeOut_again (s : Splitter) (t : FileTree) (log : Log) (p : Pass)
    (lines : Store.Stream) :
    s.writeOut (s.publication t p lines).tree log p lines = s.writeOut t log p lines := by
  have hagain : s.target.publish (s.publication t p lines).tree
      (Pass.deal p.planner (p.acceptAll lines.lines).1) =
        s.target.publish t (Pass.deal p.planner (p.acceptAll lines.lines).1) :=
    s.target.publish_again t _
  simp only [writeOut, hagain]

theorem Begins.tree (hb : s.Begins t size t' bytes) (hk : ¬ (s.run t).RemovesSource t) :
    (s.run t).tree = (s.resolved.publication t' (s.sizedPass size)
      (Store.stream s.loss s.settings.compression bytes)).tree := by
  have hsource : (s.run t).splitter.source = s.source := (s.isUsed_run t).source
  have htree := s.resolved.writeOut_tree t' (s.opening size) (s.sizedPass size)
    (Store.stream s.loss s.settings.compression bytes)
  rw [← hb.run_eq] at htree
  rcases htree with htree | ⟨hremove, -⟩
  · exact htree
  · refine absurd ⟨bytes, hsource ▸ hb.read, ?_⟩ hk
    intro bytes' hread
    rw [hsource] at hread
    exact FileTree.read_ne_ok_of_remove hremove hread

theorem Begins.again (ht : t.WellFormed) (hb : s.Begins t size t' bytes)
    (hu : u = (s.resolved.publication t' (s.sizedPass size)
      (Store.stream s.loss s.settings.compression bytes)).tree) : s.Begins u size u bytes := by
  obtain ⟨written, hw, -⟩ := s.resolved.target.published_publish t'
    (groups (s.sizedPass size) (Store.stream s.loss s.settings.compression bytes))
  change s.resolved.target.Writes t' 1 written (s.resolved.publication _ _ _).tree at hw
  rw [← hu] at hw
  have hread : u.read s.source = .ok bytes :=
    read_source_of_writes (s := s.resolved) ht hb.extends hb.read hw
  have hget : t.get s.source = u.get s.source := by
    rw [FileTree.read_eq_ok_iff.mp hb.read, FileTree.read_eq_ok_iff.mp hread]
  exact
    { size := Store.size_congr s.settings.compression hget ▸ hb.size
      necessary := hb.necessary
      base := hb.base
      directory := FileTree.makeDirectories_of_directory hb.directory hw.keepsDirectories
      bytes := hread }

theorem Begins.run_again (ht : t.WellFormed) (hb : s.Begins t size t' bytes)
    (hk : ¬ (s.run t).RemovesSource t) : s.run (s.run t).tree = s.run t := by
  have htree := hb.tree hk
  have hagain := hb.again ht htree
  rw [hagain.run_eq, htree, writeOut_again, hb.run_eq]

theorem result_again (ht : t.WellFormed) (hk : ¬ (s.run t).RemovesSource t) :
    (s.run (s.run t).tree).result = (s.run t).result := by
  -- Files are written in the last case alone; before it there are at most new directories.
  cases s.stage_run t with
  | unsized fault stated run =>
    have htree : (s.run t).tree = t := by rw [run]; rfl
    rw [htree]
  | needless size log stated unnecessary run =>
    have htree : (s.run t).tree = t := by rw [run]; rfl
    rw [htree]
  | protecting size base stated necessary isBase run =>
    have htree : (s.run t).tree = t := by rw [run]; rfl
    rw [htree]
  | unnamed size t' fault reaches makes system run =>
    have htree : (s.run t).tree = t' := by rw [run]; rfl
    rw [htree, FileTree.tree_of_not_isSystem makes system]
  | blocked size t' fault log reaches makes system run =>
    have htree : (s.run t).tree = t' := by rw [run]; rfl
    have hreaches := reaches.extend (FileTree.extends_makeDirectories makes)
    obtain ⟨fault', hagain, hsystem⟩ := FileTree.makeDirectories_again makes
    have hagain' : t'.makeDirectories s.resolved.settings.workDir = (t', some fault') := hagain
    rw [htree, hreaches.run_eq, run]
    simp only [partitionInto, hagain', hsystem, system, if_true]
    rfl
  | unread size t' fault reaches makes reads run =>
    have htree : (s.run t).tree = t' := by rw [run]; rfl
    have hreaches := reaches.extend (FileTree.extends_makeDirectories makes)
    have hagain : t'.makeDirectories s.resolved.settings.workDir = (t', none) :=
      FileTree.makeDirectories_of_directory makes (.refl t')
    have hreads : t'.read s.resolved.source = .error fault := reads
    rw [htree, hreaches.run_eq, run]
    simp only [partitionInto, hagain, stream, hreads]
    rfl
  | begins size t' bytes begins run => rw [begins.run_again ht hk]

end Splitter

end SubtreePartition
