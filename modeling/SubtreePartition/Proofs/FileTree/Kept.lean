import SubtreePartition.Proofs.FileTree.Access

namespace SubtreePartition.FileTree

variable {t t' : FileTree} {p : FilePath} {l : Location} {P : FileTree → Prop}

structure Kept (P : FileTree → Prop) : Prop where
  makeDirectory : ∀ t t' p, t.makeDirectory p = .ok t' → P t → P t'
  write : ∀ t t' p content, t.write p content = .ok t' → P t → P t'
  remove : ∀ t t' p, t.remove p = .ok t' → P t → P t'

theorem WellFormed.locate_dropLast (h : t.WellFormed) (hl : t.locate p = .ok l) :
    t.find? l.dropLast = some .directory := by
  obtain ⟨-, hfollow⟩ := locate_eq_ok_iff.mp hl
  rcases List.eq_nil_or_concat p.parts with hp | ⟨parts, part, hp⟩
  · rw [hp, follow] at hfollow
    cases hfollow
    exact h.parent _ _ (h.origin p)
  · rw [List.concat_eq_append] at hp
    rw [hp, follow_concat] at hfollow
    obtain ⟨here, -, hs⟩ := hfollow
    obtain ⟨hd, ⟨-, rfl⟩ | ⟨-, -, rfl⟩⟩ := step_eq_ok_iff.mp hs
    · exact h.parent _ _ (h.parent here _ hd)
    · rw [List.dropLast_concat]
      exact hd

theorem WellFormed.put (h : t.WellFormed) (hl : t.locate p = .ok l)
    (hd : t.find? l ≠ some .directory) (n : Node) : (t.put l n).WellFormed := by
  have hk := keepsDirectories_put hd n
  refine ⟨hk.directory _ h.current, fun m n' hm => hk.directory _ ?_⟩
  rw [find?_put (ne_nil_of_find?_ne hd)] at hm
  split at hm
  next he => exact he ▸ h.locate_dropLast hl
  next => exact h.parent m n' hm

theorem WellFormed.erase (h : t.WellFormed) (hr : t.remove p = .ok t') : t'.WellFormed := by
  have hk := keepsDirectories_remove hr
  obtain ⟨l, content, hl, -, -⟩ := remove_eq_ok_iff.mp hr
  refine ⟨hk.current ▸ hk.directory _ h.current, fun m n hm => hk.directory _ ?_⟩
  rw [find?_remove hr hl] at hm
  split at hm
  next => cases hm
  next => exact h.parent m n hm

theorem kept_wellFormed : Kept WellFormed where
  makeDirectory := by
    intro t t' p hm h
    obtain ⟨l, hl, hn, rfl⟩ := makeDirectory_eq_ok_iff.mp hm
    exact h.put hl (by simp [hn]) .directory
  write := by
    intro t t' p content hw h
    obtain ⟨l, hl, hd, rfl⟩ := write_eq_ok_iff.mp hw
    exact h.put hl hd (.file content)
  remove := by
    intro t t' p hr h
    exact h.erase hr

theorem kept_keepsDirectories (t : FileTree) : Kept t.KeepsDirectories where
  makeDirectory := fun _ _ _ hm h => h.trans (extends_makeDirectory hm).keepsDirectories
  write := fun _ _ _ _ hw h => h.trans (keepsDirectories_write hw)
  remove := fun _ _ _ hr h => h.trans (keepsDirectories_remove hr)

end SubtreePartition.FileTree
