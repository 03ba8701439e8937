import SubtreePartition.FileTree.Medium
import SubtreePartition.Proofs.FileTree.Bare

namespace SubtreePartition.FileTree

variable {t t' : FileTree} {p q : FilePath} {l place : Location}

theorem assign_assign (l : Location) (n m : Node) (nodes : List (Location × Node)) :
    assign l n (assign l m nodes) = assign l n nodes := by
  induction nodes with
  | nil => simp [assign]
  | cons a rest ih =>
    by_cases h : a.1 = l
    · simp [assign, h]
    · simp [assign, h, ih]

theorem put_put (t : FileTree) (l : Location) (n m : Node) : (t.put l m).put l n = t.put l n := by
  simp only [put, assign_assign]

theorem write_eq_map_openWriter (t : FileTree) (p : FilePath) (content : Bytes) :
    t.write p content =
      (t.openWriter p).map fun opened => opened.2.put opened.1 (.file content) := by
  unfold write openWriter
  cases t.locate p with
  | error fault => rfl
  | ok l =>
    simp only [bind, Except.bind]
    rcases t.find? l with _ | _ | _
    · simp [Except.map, put_put]
    · rfl
    · simp [Except.map, put_put]

theorem openWriter_eq_ok (h : t.openWriter p = .ok (place, t')) :
    t.locate p = .ok place ∧ t.find? place ≠ some .directory ∧ t' = t.put place (.file []) := by
  unfold openWriter at h
  cases hl : t.locate p with
  | error fault =>
    rw [hl] at h
    cases h
  | ok l =>
    simp only [hl, bind, Except.bind] at h
    split at h
    · cases h
    next hd =>
      cases h
      exact ⟨rfl, hd, rfl⟩

theorem locate_put_file {content : Bytes} (hp : place ≠ [])
    (hf : t.find? place = some (.file content)) (content' : Bytes) (q : FilePath) :
    (t.put place (.file content')).locate q = t.locate q := by
  have hbare : (t.put place (.file content')).bare = t.bare := by
    have hself : t.put place (.file content) = t := by
      rw [find?, if_neg hp] at hf
      simp only [put, assign_eq_self hf]
    calc
      (t.put place (.file content')).bare = t.bare.put place (.file []) := (put_bare t place _).symm
      _ = (t.put place (.file content)).bare := put_bare t place (.file content)
      _ = t.bare := by rw [hself]
  rw [← locate_bare, hbare, locate_bare]

end SubtreePartition.FileTree
