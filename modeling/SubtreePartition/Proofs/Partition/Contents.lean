import SubtreePartition.Proofs.FileTree.Open
import SubtreePartition.Proofs.Partition.Publish
import SubtreePartition.Proofs.Store.Content

namespace SubtreePartition.Target

variable {g : Target} {t u : FileTree} {index : Nat} {groups : List (List Bytes)}
  {pub : Publication}

def contentsOf (g : Target) (t : FileTree) (partitions : List Partition) : List (Option Bytes) :=
  partitions.map fun q => Store.contentAt g.compression t q.path

theorem Writes.contentsOf (h : Writes g t index groups u) :
    g.contentsOf u (g.filledFrom index groups) = groups.map fun lines => some lines.flatten := by
  refine List.ext_getElem? fun k => ?_
  rw [Target.contentsOf, List.getElem?_map, filledFrom, List.getElem?_mapIdx, List.getElem?_map]
  cases hk : groups[k]? with
  | none => rfl
  | some lines =>
    have hne : groups ≠ [] := by
      rintro rfl
      cases hk
    obtain ⟨here, hh⟩ := h.leadsTo hne
    have hread := h.read_path hh hk
    exact congrArg some ((Store.contentAt_of_read hread).trans (Store.content?_encode _ _))

theorem Writes.contentsOf_put_last {lines : List Bytes} {l : Location}
    (h : Writes g t index (groups ++ [lines]) u)
    (hl : u.locate (g.path (index + groups.length)) = .ok l) (content : Bytes) :
    g.contentsOf (u.put l (.file content)) (g.filledFrom index groups) =
      groups.map fun lines => some lines.flatten := by
  obtain ⟨here, hh⟩ := h.leadsTo (by simp)
  have hlast : (groups ++ [lines])[groups.length]? = some lines := by simp
  have hplace := h.locate_path hh (List.getElem?_eq_some_iff.mp hlast).1
  obtain rfl : l = g.place here (index + groups.length) := Except.ok.inj (hl.symm.trans hplace)
  have hfile := h.find?_place hh hlast
  have hne := FileTree.ne_nil_of_find?_ne (by rw [hfile]; nofun)
  refine List.ext_getElem? fun k => ?_
  rw [Target.contentsOf, List.getElem?_map, filledFrom, List.getElem?_mapIdx, List.getElem?_map]
  cases hk : groups[k]? with
  | none => rfl
  | some group =>
    have hlt := (List.getElem?_eq_some_iff.mp hk).1
    have hk' : (groups ++ [lines])[k]? = some group := by
      rw [List.getElem?_append_left hlt]
      exact hk
    have hother : g.place here (index + groups.length) ≠ g.place here (index + k) := by
      intro he
      have := place_inj.mp he
      omega
    have hread : (u.put (g.place here (index + groups.length)) (.file content)).read
        (g.path (index + k)) = .ok (Store.encode g.compression group.flatten) := by
      refine FileTree.read_eq_ok_iff_file.mpr ⟨g.place here (index + k), ?_, ?_⟩
      · rw [FileTree.locate_put_file hne hfile]
        exact h.locate_path hh (List.getElem?_eq_some_iff.mp hk').1
      · rw [FileTree.find?_put hne, if_neg hother]
        exact h.find?_place hh hk'
    exact congrArg some ((Store.contentAt_of_read hread).trans (Store.content?_encode _ _))

theorem contentAt_of_writeLines_error {lines : List Bytes} {fault : FileFault}
    (h : g.writeLines t index lines = .error fault) :
    Store.contentAt g.compression t (g.path index) = none := by
  rw [Store.contentAt]
  cases hr : t.read (g.path index) with
  | error fault => rfl
  | ok bytes =>
    obtain ⟨t', hw⟩ := FileTree.exists_write_of_read hr (Store.encode g.compression lines.flatten)
    rw [writeLines, hw] at h
    cases h

theorem Published.contentsOf (h : g.Published t index groups pub) :
    g.contentsOf pub.tree pub.partitions =
      match pub.fault with
      | none => groups.map fun lines => some lines.flatten
      | some _ =>
          (groups.take (pub.partitions.length - 1)).map (fun lines => some lines.flatten) ++
            [none] := by
  obtain ⟨written, hw, ⟨hf, rfl, hp⟩ | ⟨fault, lines, rest, hf, rfl, herr, hp⟩⟩ := h
  · rw [hf, hp]
    exact hw.contentsOf
  · have hlen : pub.partitions.length - 1 = written.length := by
      rw [hp, List.length_append, filledFrom, List.length_mapIdx]
      rfl
    have hlast := contentAt_of_writeLines_error herr
    rw [hf, hlen, List.take_left, hp, Target.contentsOf, List.map_append]
    refine congr (congrArg _ hw.contentsOf) ?_
    exact congrArg (fun c => [c]) hlast

end SubtreePartition.Target
