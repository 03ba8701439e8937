import SubtreePartition.Proofs.Pass.Dealing

namespace SubtreePartition.Pass

variable {p : Planner} {items : List Item} {g : List Bytes}

structure Bounded (p : Planner) (groups : List (List Bytes)) : Prop where
  count : groups.length ≤ p.maxPartitions
  past : ∀ g ∈ groups.dropLast, p.threshold < octets g

theorem bounded_single (hm : 1 ≤ p.maxPartitions) (g : List Bytes) : Bounded p [g] :=
  ⟨by simpa using hm, by simp⟩

theorem Bounded.cut {front : List (List Bytes)} {last : List Bytes}
    (h : Bounded p (front ++ [last])) (hd : p.due (octets last) (front.length + 1) = true)
    (raw : Bytes) : Bounded p (front ++ [last, [raw]]) := by
  obtain ⟨hlt, hidx⟩ := Planner.due_iff.mp hd
  have hsplit : front ++ [last, [raw]] = (front ++ [last]) ++ [[raw]] := by simp
  refine ⟨?_, ?_⟩
  · simp only [List.length_append, List.length_cons, List.length_nil]
    omega
  · rw [hsplit, List.dropLast_concat]
    intro g hg
    rcases List.mem_append.mp hg with hg | hg
    · exact h.past g (by simpa using hg)
    · rw [List.mem_singleton.mp hg]
      exact hlt

theorem Bounded.grow {front : List (List Bytes)} {last : List Bytes}
    (h : Bounded p (front ++ [last])) (raw : Bytes) : Bounded p (front ++ [last ++ [raw]]) := by
  refine ⟨by simpa using h.count, ?_⟩
  have hp := h.past
  rw [List.dropLast_concat] at hp ⊢
  exact hp

theorem bounded_deal (hm : 1 ≤ p.maxPartitions) (items : List Item) :
    Bounded p (deal p items) := by
  induction items using List.reverseRecOn with
  | nil => exact bounded_single hm []
  | append_singleton items item ih =>
    obtain ⟨front, last, hd⟩ := exists_deal_eq p items
    rw [hd] at ih
    rw [deal_concat item hd]
    split
    next hcut => exact ih.cut ((Bool.and_eq_true _ _).mp hcut).1 item.raw
    next => exact ih.grow item.raw

theorem ne_nil_of_threshold_lt (ht : 0 ≤ p.threshold) (h : p.threshold < octets g) : g ≠ [] := by
  rintro rfl
  simp only [octets, List.map_nil, List.sum_nil] at h
  omega

theorem ne_nil_of_mem_deal (hm : 1 ≤ p.maxPartitions) (ht : 0 ≤ p.threshold) (hi : items ≠ [])
    (hg : g ∈ deal p items) : g ≠ [] := by
  rcases List.eq_nil_or_concat items with rfl | ⟨items, item, rfl⟩
  · exact absurd rfl hi
  · rw [List.concat_eq_append] at hg
    have hb := bounded_deal hm (items ++ [item])
    obtain ⟨front, last, hd⟩ := exists_deal_concat_eq p items item
    rw [hd] at hg hb
    rcases List.mem_append.mp hg with hg | hg
    · exact ne_nil_of_threshold_lt ht (hb.past g (by simpa using hg))
    · rw [List.mem_singleton.mp hg]
      simp

end SubtreePartition.Pass
