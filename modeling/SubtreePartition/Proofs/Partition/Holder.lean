import Mathlib.Algebra.GroupWithZero.Nat
import SubtreePartition.Partition

namespace SubtreePartition

def blockOf : List Nat → Nat → Option Nat
  | [], _ => none
  | c :: rest, n => if n < c then some 0 else (blockOf rest (n - c)).map (· + 1)

theorem blockOf_append (cs ds : List Nat) (n : Nat) :
    blockOf (cs ++ ds) n =
      if n < cs.sum then blockOf cs n else (blockOf ds (n - cs.sum)).map (· + cs.length) := by
  induction cs generalizing n with
  | nil => simp
  | cons c cs ih =>
    rw [List.cons_append, blockOf, blockOf, List.sum_cons]
    by_cases hc : n < c
    · rw [if_pos hc, if_pos hc, if_pos (by omega)]
    · rw [if_neg hc, if_neg hc, ih, Nat.sub_sub]
      have hiff : n - c < cs.sum ↔ n < c + cs.sum := by omega
      by_cases ht : n < c + cs.sum
      · rw [if_pos (hiff.mpr ht), if_pos ht]
      · rw [if_neg (mt hiff.mp ht), if_neg ht, Option.map_map]
        rfl

theorem blockOf_append_left {cs : List Nat} {n : Nat} (h : n < cs.sum) (ds : List Nat) :
    blockOf (cs ++ ds) n = blockOf cs n := by
  rw [blockOf_append, if_pos h]

theorem blockOf_concat_sum (cs : List Nat) {c n : Nat} (h : cs.sum ≤ n)
    (hc : n < cs.sum + c) : blockOf (cs ++ [c]) n = some cs.length := by
  rw [blockOf_append, if_neg (by omega), blockOf, if_pos (by omega)]
  simp

theorem blockOf_concat_of_le (cs : List Nat) {c d n : Nat} (hcd : c ≤ d)
    (hn : n < cs.sum + c) : blockOf (cs ++ [d]) n = blockOf (cs ++ [c]) n := by
  by_cases h : n < cs.sum
  · rw [blockOf_append_left h, blockOf_append_left h]
  · rw [blockOf_concat_sum cs (by omega) (by omega), blockOf_concat_sum cs (by omega) hn]

theorem blockOf_concat_zero (cs : List Nat) (n : Nat) : blockOf (cs ++ [0]) n = blockOf cs n := by
  induction cs generalizing n with
  | nil => rfl
  | cons c cs ih => rw [List.cons_append, blockOf, blockOf, ih]

theorem blockOf_left_eq_filter (cs ds : List Nat) (n : Nat) :
    blockOf cs n = (blockOf (cs ++ ds) n).filter (· < cs.length) := by
  induction cs generalizing n with
  | nil => cases h : blockOf ds n <;> simp [blockOf, h, Option.filter]
  | cons c cs ih =>
    rw [List.cons_append, blockOf, blockOf]
    split
    · simp [Option.filter]
    · rw [ih]
      cases blockOf (cs ++ ds) (n - c) with
      | none => rfl
      | some k => by_cases hk : k < cs.length <;> simp [Option.filter, hk]

theorem isSome_blockOf {cs : List Nat} {n : Nat} : (blockOf cs n).isSome ↔ n < cs.sum := by
  induction cs generalizing n with
  | nil => simp [blockOf]
  | cons c cs ih =>
    rw [blockOf, List.sum_cons]
    split
    · simp only [Option.isSome_some, true_iff]
      omega
    · rw [Option.isSome_map, ih]
      omega

def blockStart (cs : List Nat) (k : Nat) : Nat :=
  (cs.take k).sum

theorem blockStart_append_left {cs : List Nat} {k : Nat} (h : k ≤ cs.length) (ds : List Nat) :
    blockStart (cs ++ ds) k = blockStart cs k := by
  rw [blockStart, blockStart, List.take_append_of_le_length h]

theorem blockStart_length (cs : List Nat) : blockStart cs cs.length = cs.sum := by
  rw [blockStart, List.take_length]

theorem blockStart_le_sum (cs : List Nat) (k : Nat) : blockStart cs k ≤ cs.sum := by
  calc
    blockStart cs k ≤ (cs.take k).sum + (cs.drop k).sum := Nat.le_add_right _ _
    _ = cs.sum := by rw [← List.sum_append, List.take_append_drop]

structure StartsSooner (cs ds : List Nat) : Prop where
  length_le : ds.length ≤ cs.length
  start_le : ∀ k < ds.length, blockStart cs k ≤ blockStart ds k

namespace Partition

def holder (ps : List Partition) (n : Nat) : Option Nat :=
  blockOf (ps.map Partition.records) n

end Partition

end SubtreePartition
