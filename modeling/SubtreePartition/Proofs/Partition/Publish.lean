import SubtreePartition.Partition
import SubtreePartition.Proofs.FilePath.PartitionName
import SubtreePartition.Proofs.FileTree.Bare
import SubtreePartition.Proofs.Partition.Holder

namespace SubtreePartition.Target

variable {g : Target} {t t' : FileTree} {here : Location} {index : Nat}
  {groups : List (List Bytes)}

inductive Writes (g : Target) : FileTree → Nat → List (List Bytes) → FileTree → Prop where
  | nil (t : FileTree) (index : Nat) : Writes g t index [] t
  | cons {t mid t' : FileTree} {index : Nat} {lines : List Bytes} {rest : List (List Bytes)} :
      g.writeLines t index lines = .ok mid → Writes g mid (index + 1) rest t' →
        Writes g t index (lines :: rest) t'

def fileName (g : Target) (index : Nat) : Text :=
  FilePath.partitionName index g.source.name

def place (g : Target) (here : Location) (index : Nat) : Location :=
  here ++ [g.fileName index]

theorem place_inj {i j : Nat} : g.place here i = g.place here j ↔ i = j := by
  simp [place, fileName, FilePath.partitionName_inj]

theorem path_ne_source (g : Target) (index : Nat) : g.path index ≠ g.source := by
  intro h
  have hname := congrArg FilePath.name h
  have hlast : (g.path index).name = FilePath.partitionName index g.source.name := by
    simp [path, FilePath.partition, FilePath.child, FilePath.name]
  exact FilePath.partitionName_ne_self index _ (hlast.symm.trans hname)

def LeadsTo (g : Target) (t : FileTree) (here : Location) : Prop :=
  t.follow (t.origin g.workDir) g.workDir.parts = .ok here

theorem LeadsTo.unique {there : Location} (h : g.LeadsTo t here) (h' : g.LeadsTo t there) :
    here = there :=
  Except.ok.inj (h.symm.trans h')

theorem LeadsTo.keep (hk : t.KeepsDirectories t') (h : g.LeadsTo t here) : g.LeadsTo t' here := by
  unfold LeadsTo
  rw [hk.origin]
  exact hk.follow h

theorem locate_path {l : Location} (hl : t.locate (g.path index) = .ok l) :
    ∃ here, g.LeadsTo t here ∧ l = g.place here index :=
  FileTree.locate_child (FilePath.partitionName_ne_up index g.source.name) hl

theorem writeLines_spec {lines : List Bytes} (hw : g.writeLines t index lines = .ok t') :
    ∃ here, g.LeadsTo t here ∧ t.locate (g.path index) = .ok (g.place here index) ∧
      t.KeepsDirectories t' ∧
      ∀ m, t'.find? m = if g.place here index = m
        then some (.file (Store.encode g.compression lines.flatten)) else t.find? m := by
  obtain ⟨l, hl, -, -⟩ := FileTree.write_eq_ok_iff.mp hw
  obtain ⟨here, hh, rfl⟩ := locate_path hl
  exact ⟨here, hh, hl, FileTree.keepsDirectories_write hw, fun m => FileTree.find?_write hw hl⟩

namespace Writes

theorem keepsDirectories (h : Writes g t index groups t') : t.KeepsDirectories t' := by
  induction h with
  | nil t index => exact .refl t
  | cons hw _ ih =>
    obtain ⟨_, -, -, hk, -⟩ := writeLines_spec hw
    exact hk.trans ih

theorem find?_other {m : Location} (h : Writes g t index groups t') (hh : g.LeadsTo t here)
    (hm : ∀ k, k < groups.length → g.place here (index + k) ≠ m) : t'.find? m = t.find? m := by
  induction h with
  | nil t index => rfl
  | @cons t mid t' index lines rest hw _ ih =>
    obtain ⟨there, hh', -, hk, hf⟩ := writeLines_spec hw
    obtain rfl := hh'.unique hh
    have h0 : g.place there index ≠ m := hm 0 (by simp)
    have hrest : ∀ k, k < rest.length → g.place there (index + 1 + k) ≠ m := by
      intro k hlt
      have hk1 := hm (k + 1) (by simpa using hlt)
      rwa [show index + (k + 1) = index + 1 + k by omega] at hk1
    rw [ih (hh.keep hk) hrest, hf, if_neg h0]

theorem find?_place {k : Nat} {lines : List Bytes} (h : Writes g t index groups t')
    (hh : g.LeadsTo t here) (hk : groups[k]? = some lines) :
    t'.find? (g.place here (index + k)) =
      some (.file (Store.encode g.compression lines.flatten)) := by
  induction h generalizing k with
  | nil t index => simp at hk
  | @cons t mid t' index first rest hw hrest ih =>
    obtain ⟨there, hh', -, hkeep, hf⟩ := writeLines_spec hw
    obtain rfl := hh'.unique hh
    cases k with
    | zero =>
      obtain rfl : first = lines := by simpa using hk
      have hne : ∀ k, k < rest.length →
          g.place there (index + 1 + k) ≠ g.place there index := by
        intro k _ he
        have := place_inj.mp he
        omega
      rw [Nat.add_zero, hrest.find?_other (hh.keep hkeep) hne, hf, if_pos rfl]
    | succ k =>
      rw [show index + (k + 1) = index + 1 + k by omega]
      exact ih (hh.keep hkeep) (by simpa using hk)

theorem locate_path {k : Nat} (h : Writes g t index groups t') (hh : g.LeadsTo t here)
    (hk : k < groups.length) :
    t'.locate (g.path (index + k)) = .ok (g.place here (index + k)) := by
  induction h generalizing k with
  | nil t index => simp at hk
  | @cons t mid t' index first rest hw hrest ih =>
    obtain ⟨there, hh', hl, hkeep, -⟩ := writeLines_spec hw
    obtain rfl := hh'.unique hh
    cases k with
    | zero => exact (hkeep.trans hrest.keepsDirectories).locate hl
    | succ k =>
      rw [show index + (k + 1) = index + 1 + k by omega]
      exact ih (hh.keep hkeep) (by simpa using hk)

theorem read_path {k : Nat} {lines : List Bytes} (h : Writes g t index groups t')
    (hh : g.LeadsTo t here) (hk : groups[k]? = some lines) :
    t'.read (g.path (index + k)) = .ok (Store.encode g.compression lines.flatten) := by
  obtain ⟨hlt, -⟩ := List.getElem?_eq_some_iff.mp hk
  exact FileTree.read_eq_ok_iff_file.mpr
    ⟨g.place here (index + k), h.locate_path hh hlt, h.find?_place hh hk⟩

theorem leadsTo (h : Writes g t index groups t') (hne : groups ≠ []) : ∃ here, g.LeadsTo t here := by
  cases h with
  | nil => exact absurd rfl hne
  | cons hw _ =>
    obtain ⟨here, hh, -⟩ := writeLines_spec hw
    exact ⟨here, hh⟩

theorem find?_cases (h : Writes g t index groups t') (l : Location) :
    t'.find? l = t.find? l ∨
      (t.find? l ≠ some .directory ∧ ∃ here k lines, groups[k]? = some lines ∧
        l = g.place here (index + k) ∧ t'.locate (g.path (index + k)) = .ok l ∧
        t'.find? l = some (.file (Store.encode g.compression lines.flatten))) := by
  cases groups with
  | nil =>
    cases h
    exact .inl rfl
  | cons first rest =>
    obtain ⟨here, hh⟩ := h.leadsTo (by simp)
    by_cases hl : ∃ k, k < (first :: rest).length ∧ g.place here (index + k) = l
    · obtain ⟨k, hk, rfl⟩ := hl
      have hat := List.getElem?_eq_getElem hk
      have hf := h.find?_place hh hat
      refine .inr ⟨fun hd => ?_, here, k, _, hat, rfl, h.locate_path hh hk, hf⟩
      rw [h.keepsDirectories.directory _ hd] at hf
      cases hf
    · exact .inl (h.find?_other hh fun k hk he => hl ⟨k, hk, he⟩)

theorem exists_of_bare {u : FileTree} (hb : t.bare = u.bare) (h : Writes g t index groups t') :
    ∃ u', Writes g u index groups u' := by
  induction h generalizing u with
  | nil t index => exact ⟨u, .nil u index⟩
  | @cons t mid t' index lines rest hw _ ih =>
    obtain ⟨mid', hw', hmid⟩ := FileTree.exists_write_of_bare hb hw
      (Store.encode g.compression lines.flatten)
    obtain ⟨u', hu⟩ := ih hmid
    exact ⟨u', .cons hw' hu⟩

theorem fault_publishFrom (last : Partition) (line : Nat)
    (h : Writes g t (last.index + 1) groups t') :
    (g.publishFrom t last line groups).fault = none := by
  induction groups generalizing t last line with
  | nil => rfl
  | cons lines rest ih =>
    cases h with
    | @cons _ mid _ _ _ _ hw hrest =>
      have hnext := ih (g.filled (last.index + 1) lines) (line + last.records) hrest
      simp only [publishFrom, hw]
      exact hnext

theorem fault_publish (h : Writes g t 1 groups t') : (g.publish t groups).fault = none := by
  cases h with
  | nil => rfl
  | @cons _ mid _ _ lines rest hw hrest =>
    have hnext := fault_publishFrom (g.filled 1 lines) 0 hrest
    simp only [publish, hw]
    exact hnext

end Writes

theorem publishFrom_of_write {mid : FileTree} {lines : List Bytes} (last : Partition) (line : Nat)
    (rest : List (List Bytes)) (hw : g.writeLines t (last.index + 1) lines = .ok mid) :
    g.publishFrom t last line (lines :: rest) =
      let p := g.filled (last.index + 1) lines
      let next := g.publishFrom mid p (line + last.records) rest
      { next with
        partitions := p :: next.partitions
        phases := .rotate :: .streaming :: next.phases
        log := .partitionCreated last.path last.size :: .cutFound (line + last.records) p.path ::
          next.log } := by
  simp only [publishFrom, hw]

theorem publishFrom_of_fault {fault : FileFault} {lines : List Bytes} (last : Partition)
    (line : Nat) (rest : List (List Bytes))
    (hw : g.writeLines t (last.index + 1) lines = .error fault) :
    g.publishFrom t last line (lines :: rest) =
      { tree := t
        partitions := [g.opened (last.index + 1)]
        phases := [.rotate]
        log := [.partitionCreated last.path last.size]
        fault := some fault } := by
  simp only [publishFrom, hw]

def filledFrom (g : Target) (index : Nat) (groups : List (List Bytes)) : List Partition :=
  groups.mapIdx fun k lines => g.filled (index + k) lines

theorem filledFrom_cons (g : Target) (index : Nat) (lines : List Bytes)
    (rest : List (List Bytes)) :
    g.filledFrom index (lines :: rest) = g.filled index lines :: g.filledFrom (index + 1) rest := by
  have hshift : (fun k ls => g.filled (index + (k + 1)) ls) =
      fun k ls => g.filled (index + 1 + k) ls := by
    funext k ls
    rw [Nat.add_assoc, Nat.add_comm 1 k]
  rw [filledFrom, List.mapIdx_cons, hshift]
  rfl

theorem filledFrom_concat (g : Target) (index : Nat) (groups : List (List Bytes))
    (lines : List Bytes) :
    g.filledFrom index (groups ++ [lines]) =
      g.filledFrom index groups ++ [g.filled (index + groups.length) lines] := by
  rw [filledFrom, List.mapIdx_concat]
  rfl

theorem exists_mem_filledFrom (g : Target) (index : Nat) {k : Nat} {lines : List Bytes}
    (hk : groups[k]? = some lines) :
    ∃ q ∈ g.filledFrom index groups, q.path = g.path (index + k) := by
  refine ⟨g.filled (index + k) lines, List.mem_of_getElem? (i := k) ?_, rfl⟩
  rw [filledFrom, List.getElem?_mapIdx, hk]
  rfl

theorem exists_filled_of_mem {index : Nat} {q : Partition} (h : q ∈ g.filledFrom index groups) :
    ∃ k, ∃ lines ∈ groups, q = g.filled k lines := by
  rw [filledFrom, List.mem_mapIdx] at h
  obtain ⟨k, hk, rfl⟩ := h
  exact ⟨index + k, groups[k], List.getElem_mem hk, rfl⟩

theorem filledFrom_one (g : Target) (groups : List (List Bytes)) :
    g.filledFrom 1 groups = groups.mapIdx fun k lines => g.filled (k + 1) lines := by
  simp only [filledFrom, Nat.add_comm]

theorem map_filledFrom {α : Type} {f : Partition → α} {v : List Bytes → α}
    (h : ∀ k lines, f (g.filled k lines) = v lines) (index : Nat) (groups : List (List Bytes)) :
    (g.filledFrom index groups).map f = groups.map v := by
  induction groups generalizing index with
  | nil => rfl
  | cons lines rest ih => rw [filledFrom_cons, List.map_cons, ih, List.map_cons, h]

theorem map_records_filledFrom (g : Target) (index : Nat) (groups : List (List Bytes)) :
    (g.filledFrom index groups).map Partition.records = groups.map List.length :=
  map_filledFrom (fun _ _ => rfl) index groups

theorem map_size_filledFrom (g : Target) (index : Nat) (groups : List (List Bytes)) :
    (g.filledFrom index groups).map Partition.size =
      groups.map fun lines => (lines.map List.length).sum :=
  map_filledFrom (fun _ _ => List.length_flatten) index groups

def Published (g : Target) (t : FileTree) (index : Nat) (groups : List (List Bytes))
    (pub : Publication) : Prop :=
  ∃ written, Writes g t index written pub.tree ∧
    ((pub.fault = none ∧ groups = written ∧ pub.partitions = g.filledFrom index written) ∨
      ∃ fault lines rest, pub.fault = some fault ∧ groups = written ++ lines :: rest ∧
        g.writeLines pub.tree (index + written.length) lines = .error fault ∧
        pub.partitions = g.filledFrom index written ++ [g.opened (index + written.length)])

theorem Published.complete {pub : Publication} (h : g.Published t index groups pub)
    (hf : pub.fault = none) :
    Writes g t index groups pub.tree ∧ pub.partitions = g.filledFrom index groups := by
  obtain ⟨written, hw, ⟨-, rfl, hp⟩ | ⟨fault, _, _, hsome, -⟩⟩ := h
  · exact ⟨hw, hp⟩
  · rw [hsome] at hf
    cases hf

theorem Published.holder {pub : Publication} (h : g.Published t index groups pub) :
    ∃ count, ∀ n, Partition.holder pub.partitions n =
      (blockOf (groups.map List.length) n).filter (· < count) := by
  obtain ⟨written, -, hcases⟩ := h
  refine ⟨(written.map List.length).length, fun n => ?_⟩
  unfold Partition.holder
  rcases hcases with ⟨-, rfl, hp⟩ | ⟨fault, lines, rest, -, rfl, -, hp⟩
  · have hfilter := blockOf_left_eq_filter (groups.map List.length) [] n
    rw [List.append_nil] at hfilter
    rw [hp, map_records_filledFrom, ← hfilter]
  · rw [hp, List.map_append, map_records_filledFrom, List.map_append, ← blockOf_left_eq_filter]
    exact blockOf_concat_zero _ n

theorem Published.cons {mid : FileTree} {lines : List Bytes} {rest : List (List Bytes)}
    {pub next : Publication} (hw : g.writeLines t index lines = .ok mid)
    (h : g.Published mid (index + 1) rest next) (htree : pub.tree = next.tree)
    (hfault : pub.fault = next.fault)
    (hparts : pub.partitions = g.filled index lines :: next.partitions) :
    g.Published t index (lines :: rest) pub := by
  obtain ⟨written, hwrites, hcases⟩ := h
  have hnext : index + (lines :: written).length = index + 1 + written.length := by
    rw [List.length_cons]
    omega
  refine ⟨lines :: written, htree ▸ .cons hw hwrites, ?_⟩
  rcases hcases with ⟨hnone, rfl, hp⟩ | ⟨fault, failed, todo, hsome, rfl, herr, hp⟩
  · exact .inl ⟨hfault.trans hnone, rfl, by rw [hparts, hp, filledFrom_cons]⟩
  · refine .inr ⟨fault, failed, todo, hfault.trans hsome, rfl, ?_, ?_⟩
    · rw [htree, hnext]
      exact herr
    · rw [hparts, hp, filledFrom_cons, hnext, List.cons_append]

theorem published_error {lines : List Bytes} {rest : List (List Bytes)} {fault : FileFault}
    {pub : Publication} (hw : g.writeLines t index lines = .error fault) (htree : pub.tree = t)
    (hfault : pub.fault = some fault) (hparts : pub.partitions = [g.opened index]) :
    g.Published t index (lines :: rest) pub := by
  subst htree
  exact ⟨[], .nil _ index, .inr ⟨fault, lines, rest, hfault, rfl, hw, hparts⟩⟩

theorem published_publishFrom (t : FileTree) (last : Partition) (line : Nat)
    (groups : List (List Bytes)) :
    g.Published t (last.index + 1) groups (g.publishFrom t last line groups) := by
  induction groups generalizing t last line with
  | nil => exact ⟨[], .nil t _, .inl ⟨rfl, rfl, rfl⟩⟩
  | cons lines rest ih =>
    unfold publishFrom
    split
    next fault hw => exact published_error hw rfl rfl rfl
    next mid hw => exact Published.cons hw (ih mid (g.filled (last.index + 1) lines) _) rfl rfl rfl

theorem published_publish (t : FileTree) (groups : List (List Bytes)) :
    g.Published t 1 groups (g.publish t groups) := by
  cases groups with
  | nil => exact ⟨[], .nil t _, .inl ⟨rfl, rfl, rfl⟩⟩
  | cons lines rest =>
    simp only [publish]
    split
    next fault hw => exact published_error hw rfl rfl rfl
    next mid hw => exact .cons hw (published_publishFrom mid (g.filled 1 lines) 0 rest) rfl rfl rfl

end SubtreePartition.Target
