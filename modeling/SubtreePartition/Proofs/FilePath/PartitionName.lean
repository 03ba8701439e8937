import SubtreePartition.FilePath
import SubtreePartition.FileTree.Access
import SubtreePartition.Proofs.Text.Basic
import SubtreePartition.Proofs.Text.Decimal

namespace SubtreePartition

namespace FilePath

def hyphen : CodePoint := 45

theorem partitionName_eq (i : Int) (name : Text) :
    partitionName i name = Text.ofString "split-" ++ (Text.ofInt i ++ hyphen :: name) := by
  have hh : Text.ofString "-" = [hyphen] := by decide
  simp only [partitionName, Text.join, List.flatten_cons, List.flatten_nil, List.append_nil, hh]
  rfl

theorem prefix_partitionName (i : Int) (name : Text) :
    Text.ofString "split-" <+: partitionName i name := by
  rw [partitionName_eq]
  exact List.prefix_append _ _

theorem hyphen_notMem_ofNat (n : Nat) : hyphen ∉ Text.ofNat n := by
  intro h
  have hd := Text.isDigit_of_mem_ofNat h
  exact absurd hd (by decide)

theorem ofNat_append_ne_minus (m : Nat) (s t : Text) : Text.ofNat m ++ s ≠ hyphen :: t := by
  intro h
  obtain ⟨d, rest, hm⟩ := List.exists_cons_of_ne_nil (Text.ofNat_ne_nil m)
  have hd : d ∈ Text.ofNat m := hm ▸ List.mem_cons_self
  rw [hm, List.cons_append] at h
  obtain ⟨rfl, -⟩ := List.cons.inj h
  exact hyphen_notMem_ofNat m hd

theorem ofInt_append_inj {i j : Int} {a b : Text}
    (h : Text.ofInt i ++ hyphen :: a = Text.ofInt j ++ hyphen :: b) : i = j ∧ a = b := by
  cases i with
  | ofNat m =>
    cases j with
    | ofNat n =>
      obtain ⟨hmn, hab⟩ :=
        Text.append_separator_inj (hyphen_notMem_ofNat m) (hyphen_notMem_ofNat n) h
      exact ⟨congrArg Int.ofNat (Text.ofNat_inj.mp hmn), hab⟩
    | negSucc n => exact absurd h (ofNat_append_ne_minus m _ _)
  | negSucc m =>
    cases j with
    | ofNat n => exact absurd h.symm (ofNat_append_ne_minus n _ _)
    | negSucc n =>
      have h := (List.cons.inj h).2
      obtain ⟨hmn, hab⟩ :=
        Text.append_separator_inj (hyphen_notMem_ofNat _) (hyphen_notMem_ofNat _) h
      exact ⟨congrArg Int.negSucc (Nat.succ.inj (Text.ofNat_inj.mp hmn)), hab⟩

theorem partitionName_eq_iff {i j : Int} {a b : Text} :
    partitionName i a = partitionName j b ↔ i = j ∧ a = b := by
  constructor
  · intro h
    rw [partitionName_eq, partitionName_eq, List.append_right_inj] at h
    exact ofInt_append_inj h
  · rintro ⟨rfl, rfl⟩
    rfl

theorem partitionName_inj {i j : Nat} {a b : Text} :
    partitionName i a = partitionName j b ↔ i = j ∧ a = b := by
  rw [partitionName_eq_iff, Int.ofNat_inj]

theorem partitionName_ne_self (i : Int) (name : Text) : partitionName i name ≠ name := by
  intro h
  have hl : (partitionName i name).length = name.length := by rw [h]
  rw [partitionName_eq] at hl
  simp only [List.length_append, List.length_cons] at hl
  omega

theorem partitionName_ne_up (i : Int) (name : Text) : partitionName i name ≠ FileTree.up := by
  intro h
  have hs := prefix_partitionName i name
  rw [h] at hs
  exact absurd hs (by decide)

end FilePath

end SubtreePartition
