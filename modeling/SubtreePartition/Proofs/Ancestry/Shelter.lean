import SubtreePartition.Planner
import SubtreePartition.Proofs.Ancestry.Enter

namespace SubtreePartition.Ancestry

variable {mode : OrderMode} {a a' : Ancestry} {r : Record} {set : CategorySet} {d : Nat}

/-- A protected category is in a slot that no record deeper than `d` cuts off. Where the chain is
shorter than the paths, the slot may be far above the depth of its record. -/
def Shelters (set : CategorySet) (d : Nat) (a : Ancestry) : Prop :=
  ∃ slot c, slot < d ∧ a.categories[slot]? = some c ∧ set.contains c = true

theorem shelters_own (he : a.enter mode r = (a', none)) (hd : 1 ≤ r.depth)
    (hc : set.contains r.category = true) : Shelters set r.depth a' := by
  rcases enter_ok_cases he with ⟨hs, -⟩ | ⟨front, last, hs, -, rfl⟩
  · simp [Record.depth, hs] at hd
  · refine ⟨(a.take front.length).length, r.category, ?_, ?_, hc⟩
    · simp only [Record.depth, hs, List.length_append, List.length_singleton, List.length_take]
      omega
    · simp [categories]

theorem Shelters.enter (h : Shelters set d a) (hd : d < r.depth)
    (he : a.enter mode r = (a', none)) :
    Shelters set d a' ∧ ∃ c ∈ a'.categories.dropLast, set.contains c = true := by
  obtain ⟨slot, c, hslot, hat, hc⟩ := h
  rcases enter_ok_cases he with ⟨hs, -⟩ | ⟨front, last, hs, -, rfl⟩
  · simp [Record.depth, hs] at hd
  · have hlt : slot < front.length := by
      simp only [Record.depth, hs, List.length_append, List.length_singleton] at hd
      omega
    have hkept : (categories (a.take front.length))[slot]? = some c := by
      rw [categories_take, List.getElem?_take_of_lt hlt, hat]
    rw [categories_append]
    refine ⟨⟨slot, c, hslot, ?_, hc⟩, c, ?_, hc⟩
    · obtain ⟨hlen, -⟩ := List.getElem?_eq_some_iff.mp hkept
      rw [categories_append, List.getElem?_append_left hlen, hkept]
    · simpa [categories] using List.mem_of_getElem? hkept

theorem legal_eq_false {planner : Planner} {cs : List Text}
    (h : ∃ c ∈ cs.dropLast, planner.protectedSet.contains c = true) :
    planner.legal cs = false := by
  obtain ⟨c, hm, hc⟩ := h
  cases hl : planner.legal cs with
  | false => rfl
  | true => exact absurd (Planner.legal_iff.mp hl c hm) (by simp [hc])

end SubtreePartition.Ancestry
