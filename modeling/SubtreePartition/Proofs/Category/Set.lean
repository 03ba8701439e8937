import SubtreePartition.Category.Set

namespace SubtreePartition.CategorySet

variable {a b names : List Text}

theorem mem_names_ofList {x : Text} : x ∈ (ofList names).names ↔ x ∈ names := by
  simp [ofList, mem_dropRepeats]

theorem eq_of_mem_iff {s t : CategorySet} (h : ∀ x, x ∈ s.names ↔ x ∈ t.names) : s = t := by
  have hperm : s.names.Perm t.names :=
    (List.perm_ext_iff_of_nodup (s.sorted.imp And.right) (t.sorted.imp And.right)).mpr h
  have hnames := hperm.eq_of_pairwise
    (fun x y _ _ hxy hyx => Text.ble_antisymm hxy.1 hyx.1) s.sorted t.sorted
  obtain ⟨names, sorted⟩ := s
  cases hnames
  rfl

theorem ofList_eq_iff : ofList a = ofList b ↔ ∀ x, x ∈ a ↔ x ∈ b := by
  constructor
  · intro h x
    rw [← mem_names_ofList, h, mem_names_ofList]
  · intro h
    refine eq_of_mem_iff fun x => ?_
    rw [mem_names_ofList, mem_names_ofList, h]

end SubtreePartition.CategorySet
