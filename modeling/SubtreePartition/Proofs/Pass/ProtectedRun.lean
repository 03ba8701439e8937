import SubtreePartition.Proofs.Ancestry.Shelter
import SubtreePartition.Proofs.Pass.Dealing
import SubtreePartition.Proofs.Pass.Visits

namespace SubtreePartition.Pass

variable {p : Pass} {lines : List Bytes} {i j : Nat}

theorem shelters_visit {v : Visit} (hv : (p.visits lines)[i]? = some v)
    (hd : 1 ≤ v.record.depth) (hc : p.planner.protectedSet.contains v.record.category = true)
    (hj : j < (p.visits lines).length) (hij : i ≤ j)
    (hdeep : ∀ k w, i < k → k ≤ j → (p.visits lines)[k]? = some w →
      v.record.depth < w.record.depth) :
    ∃ w, (p.visits lines)[j]? = some w ∧
      w.chain.Shelters p.planner.protectedSet v.record.depth ∧
      (i < j → ∃ c ∈ w.chain.categories.dropLast, p.planner.protectedSet.contains c = true) := by
  induction j, hij using Nat.le_induction with
  | base =>
    obtain ⟨a, he⟩ := exists_enter hv
    exact ⟨v, hv, Ancestry.shelters_own he hd hc, fun h => absurd h (Nat.lt_irrefl i)⟩
  | succ j hij ih =>
    obtain ⟨w, hw, hs, -⟩ := ih (by omega) fun k w hk hkj => hdeep k w hk (by omega)
    have hnext : (p.visits lines)[j + 1]? = some (p.visits lines)[j + 1] :=
      List.getElem?_eq_getElem hj
    have hlt := hdeep (j + 1) _ (by omega) (Nat.le_refl _) hnext
    obtain ⟨hs', hcut⟩ := hs.enter hlt (enter_next hw hnext)
    exact ⟨_, hnext, hs', fun _ => hcut⟩

theorem illegal_of_protected_run {v : Visit} (hv : (p.visits lines)[i]? = some v)
    (hd : 1 ≤ v.record.depth) (hc : p.planner.protectedSet.contains v.record.category = true)
    (hj : j < (p.visits lines).length) (hij : i < j)
    (hdeep : ∀ k w, i < k → k ≤ j → (p.visits lines)[k]? = some w →
      v.record.depth < w.record.depth) {item : Item}
    (hitem : (p.acceptAll lines).1[j]? = some item) :
    p.planner.legal item.ancestors = false := by
  obtain ⟨w, hw, -, hcut⟩ := shelters_visit hv hd hc hj (Nat.le_of_lt hij) hdeep
  rw [acceptAll_fst, List.getElem?_map, hw] at hitem
  obtain rfl : w.item = item := by simpa using hitem
  exact Ancestry.legal_eq_false (hcut hij)

theorem blockOf_eq_of_protected_run {r : Record} (hij : i ≤ j)
    (hj : j < (p.acceptAll lines).1.length) (hr : p.recordAt lines i = some r)
    (hd : 1 ≤ r.depth) (hc : p.planner.protectedSet.contains r.category = true)
    (hdeep : ∀ k r', i < k → k ≤ j → p.recordAt lines k = some r' → r.depth < r'.depth) :
    blockOf ((deal p.planner (p.acceptAll lines).1).map List.length) j =
      blockOf ((deal p.planner (p.acceptAll lines).1).map List.length) i := by
  have hlen := length_visits p lines
  obtain ⟨v, hv, rfl⟩ := exists_visit (by omega) hr
  refine blockOf_deal_eq_of_illegal hij hj fun k item hik hkj hitem => ?_
  refine illegal_of_protected_run hv hd hc (by omega) hik ?_ hitem
  intro m w him hmk hw
  exact hdeep m w.record him (by omega) (recordAt_of_visit hw)

end SubtreePartition.Pass
