import SubtreePartition.Proofs.Category.Declared
import SubtreePartition.Proofs.Category.Outcome

namespace SubtreePartition

namespace Datum

variable {α : Type} {m : Text × α} {done : List (Text × α)}

theorem mem_names_put {name : Text} :
    name ∈ (put m done).map Prod.fst ↔ name = m.1 ∨ name ∈ done.map Prod.fst := by
  induction done with
  | nil => simp [put]
  | cons n rest ih =>
    rw [put]
    split
    next he => simp [he]
    next he =>
      rw [List.map_cons, List.mem_cons, ih, List.map_cons, List.mem_cons]
      exact or_left_comm

theorem nodup_put (h : (done.map Prod.fst).Nodup) : ((put m done).map Prod.fst).Nodup := by
  induction done with
  | nil => simp [put]
  | cons n rest ih =>
    rw [List.map_cons, List.nodup_cons] at h
    obtain ⟨hn, hrest⟩ := h
    rw [put]
    split
    next he =>
      rw [List.map_cons, List.nodup_cons, ← he]
      exact ⟨hn, hrest⟩
    next he =>
      rw [List.map_cons, List.nodup_cons, mem_names_put]
      exact ⟨fun hm => hm.elim he hn, ih hrest⟩

theorem nodup_foldl_put (ms : List (Text × α)) (h : (done.map Prod.fst).Nodup) :
    ((ms.foldl (fun done m => put m done) done).map Prod.fst).Nodup := by
  induction ms generalizing done with
  | nil => exact h
  | cons m rest ih => exact ih (nodup_put h)

end Datum

variable {L : Library} {fields : L.Fields} {ds : Declarations} {files : FileTree}
  {file : FilePath} {h : Hierarchy} {log : Log}

theorem Declarations.isMapping_of_fit (hf : Declarations.Fit fields ds) : ds.IsMapping := by
  rcases hf with ⟨v, -, members, named, -, -, rfl⟩ | ⟨-, rfl⟩
  · exact Datum.nodup_foldl_put named List.nodup_nil
  · exact List.nodup_nil

theorem Hierarchy.isMapping_of_load (hL : L.IsDocumented)
    (hl : Hierarchy.load L files file = .ok (h, log)) :
    ∃ ds : Declarations, ds.IsMapping ∧ h = .ofDeclarations ds := by
  obtain ⟨content, ds, -, ⟨_, _, -, -, hfit⟩, he⟩ :=
    ((accounts_report hL hL.hierarchy _ _ _ _).loaded _).mp (load_eq L files file ▸ hl)
  exact ⟨ds, Declarations.isMapping_of_fit hfit, congrArg Prod.fst he⟩

end SubtreePartition
