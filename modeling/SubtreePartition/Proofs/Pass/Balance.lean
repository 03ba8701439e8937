import SubtreePartition.Proofs.Pass.Bounds
import SubtreePartition.Proofs.Pass.Visits

namespace SubtreePartition

structure Planner.Shares (p : Planner) (size : Nat) : Prop where
  one_le : 1 ≤ p.maxPartitions
  threshold : p.threshold = size / p.maxPartitions

theorem Planner.Shares.nonneg {p : Planner} {size : Nat} (h : p.Shares size) : 0 ≤ p.threshold := by
  have hm := h.one_le
  rw [h.threshold]
  exact Int.ediv_nonneg (Int.natCast_nonneg size) (by omega)

theorem Planner.Shares.lt_mul {p : Planner} {size : Nat} (h : p.Shares size) :
    (size : Int) < p.maxPartitions * (p.threshold + 1) := by
  have hm := h.one_le
  rw [h.threshold, Int.mul_comm]
  exact Int.lt_ediv_add_one_mul_self _ (by omega)

namespace Pass

variable {p : Planner} {items : List Item} {size : Nat} {raw : Bytes}

theorem mul_le_octets {n : Int} {groups : List (List Bytes)} (h : ∀ g ∈ groups, n ≤ octets g) :
    groups.length * n ≤ octets groups.flatten := by
  induction groups with
  | nil => simp
  | cons g rest ih =>
    have hg := h g List.mem_cons_self
    have hrest := ih fun g' hg' => h g' (List.mem_cons_of_mem g hg')
    rw [List.flatten_cons, octets_append, List.length_cons, Int.natCast_add, Int.natCast_add,
      Int.add_mul, Int.natCast_one, Int.one_mul]
    omega

def longest (lines : List Bytes) : Nat :=
  (lines.map List.length).foldr max 0

theorem length_le_longest {lines : List Bytes} (h : raw ∈ lines) :
    raw.length ≤ longest lines := by
  induction lines with
  | nil => cases h
  | cons line rest ih =>
    have hl : longest (line :: rest) = max line.length (longest rest) := rfl
    rcases List.mem_cons.mp h with rfl | h
    · omega
    · have hrest := ih h
      omega

theorem length_lt_of_past (hs : p.Shares size) (hle : octets (items.map Item.raw) ≤ size)
    {front : List (List Bytes)} {last : List Bytes} (hd : deal p items = front ++ [last])
    (hlast : p.threshold < octets last) : (front.length : Int) + 1 < p.maxPartitions := by
  have hpast := (bounded_deal hs.one_le items).past
  rw [hd, List.dropLast_concat] at hpast
  have hall : ∀ g ∈ front ++ [last], p.threshold + 1 ≤ octets g := by
    intro g hg
    rcases List.mem_append.mp hg with hg | hg
    · exact hpast g hg
    · rw [List.mem_singleton.mp hg]
      exact hlast
  have hsum := mul_le_octets hall
  rw [← hd, flatten_deal, hd, List.length_append, List.length_singleton, Int.natCast_add,
    Int.natCast_one] at hsum
  have hlt : ((front.length : Int) + 1) * (p.threshold + 1) <
      p.maxPartitions * (p.threshold + 1) := by
    have := hs.lt_mul
    omega
  have ht := hs.nonneg
  exact Int.lt_of_mul_lt_mul_right hlt (by omega)

theorem octets_le_of_legal {n : Nat} (hs : p.Shares size)
    (hle : octets (items.map Item.raw) ≤ size)
    (hlegal : ∀ item ∈ items, p.legal item.ancestors = true)
    (hlong : ∀ item ∈ items, item.raw.length ≤ n) {g : List Bytes} (hg : g ∈ deal p items) :
    octets g ≤ p.threshold + n := by
  have ht := hs.nonneg
  induction items using List.reverseRecOn generalizing g with
  | nil =>
    have hnil : deal p [] = [[]] := rfl
    rw [hnil] at hg
    rw [List.mem_singleton.mp hg, octets_nil]
    omega
  | append_singleton items item ih =>
    rw [List.map_append, octets_append] at hle
    obtain ⟨front, last, hd⟩ := exists_deal_eq p items
    have hbefore : ∀ g ∈ front ++ [last], (octets g : Int) ≤ p.threshold + n := by
      rw [← hd]
      exact fun g hg => ih (by omega) (fun i hi => hlegal i (List.mem_append_left _ hi))
        (fun i hi => hlong i (List.mem_append_left _ hi)) hg
    have hitem : item.raw.length ≤ n := hlong item (by simp)
    have hcut : p.legal item.ancestors = true := hlegal item (by simp)
    rw [deal_concat item hd, Planner.cut, hcut, Bool.and_true] at hg
    split at hg
    next hdue =>
      have hsplit : front ++ [last, [item.raw]] = (front ++ [last]) ++ [[item.raw]] := by simp
      rw [hsplit] at hg
      rcases List.mem_append.mp hg with hg | hg
      · exact hbefore g hg
      · rw [List.mem_singleton.mp hg, octets_singleton]
        omega
    next hdue =>
      rcases List.mem_append.mp hg with hg | hg
      · exact hbefore g (List.mem_append_left _ hg)
      · -- Past the threshold there would be room for another group, and the planner would cut.
        have hshort : (octets last : Int) ≤ p.threshold := by
          by_contra hpast
          have hroom := length_lt_of_past hs (by omega) hd (by omega)
          exact hdue (Planner.due_iff.mpr ⟨by omega, hroom⟩)
        rw [List.mem_singleton.mp hg, octets_concat]
        omega

namespace Dealing

theorem index_lt_of_past (hs : p.Shares size) (hle : octets (items.map Item.raw) ≤ size)
    (h : p.threshold < (run p items).draft.size) : (run p items).draft.index < p.maxPartitions := by
  have hsound := sound_run p items
  rw [hsound.size] at h
  have hroom := length_lt_of_past hs hle (deal_eq_concat p items) h
  rw [List.length_reverse] at hroom
  rw [hsound.index]
  exact hroom

end Dealing

def dealingAt (p : Pass) (lines : List Bytes) (n : Nat) : Dealing :=
  .run p.planner ((p.acceptAll lines).1.take n)

theorem dealFrom_dealingAt (p : Pass) (lines : List Bytes) (n : Nat) :
    dealFrom p.planner (p.dealingAt lines n).closed (p.dealingAt lines n).draft
        ((p.acceptAll lines).1.drop n) =
      deal p.planner (p.acceptAll lines).1 := by
  rw [Dealing.dealFrom_eq, Dealing.deal_eq, dealingAt, Dealing.run, Dealing.run,
    ← List.foldl_append, List.take_append_drop]

end Pass

end SubtreePartition
