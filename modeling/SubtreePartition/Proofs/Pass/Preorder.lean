import SubtreePartition.Proofs.Ancestry.Enter
import SubtreePartition.Proofs.Pass.Visits

namespace SubtreePartition

def Record.IsBelow (r top : Record) : Prop :=
  top.segments <+: r.segments ∧ top.segments ≠ r.segments

theorem Record.IsBelow.depth_lt {r top : Record} (h : r.IsBelow top) : top.depth < r.depth := by
  obtain ⟨hp, hne⟩ := h
  refine Nat.lt_of_le_of_ne hp.length_le fun he => hne ?_
  exact hp.eq_of_length he

theorem Record.IsBelow.isPrefix_dropLast {r top : Record} (h : r.IsBelow top) :
    top.segments <+: r.segments.dropLast := by
  exact Ancestry.isPrefix_dropLast h.1 h.2

namespace Pass

variable {p : Pass} {lines : List Bytes} {i j : Nat} {v w : Visit}

theorem segments_chain (hm : p.mode = .strict) (hv : (p.visits lines)[i]? = some v) :
    v.chain.segments = v.record.segments := by
  obtain ⟨a, he⟩ := exists_enter hv
  rw [hm] at he
  exact (Ancestry.enter_strict he).1

theorem parent_first (hm : p.mode = .strict) (hv : (p.visits lines)[0]? = some v) :
    v.record.segments.dropLast = [] := by
  have he := enter_first hv
  rw [hm] at he
  simpa [Ancestry.segments] using (Ancestry.enter_strict he).2

theorem parent_isPrefix (hm : p.mode = .strict) (hv : (p.visits lines)[i]? = some v)
    (hw : (p.visits lines)[i + 1]? = some w) :
    w.record.segments.dropLast <+: v.record.segments := by
  have he := enter_next hv hw
  rw [hm] at he
  rw [← segments_chain hm hv]
  exact (Ancestry.enter_strict he).2

theorem eq_of_segments_eq (hu : ((p.visits lines).map fun v => v.record.segments).Nodup)
    (hv : (p.visits lines)[i]? = some v) (hw : (p.visits lines)[j]? = some w)
    (h : v.record.segments = w.record.segments) : i = j := by
  obtain ⟨hi, -⟩ := List.getElem?_eq_some_iff.mp hv
  refine (List.getElem?_inj (by simpa using hi) hu).mp ?_
  rw [List.getElem?_map, List.getElem?_map, hv, hw, Option.map_some, Option.map_some, h]

theorem isBelow_run (hm : p.mode = .strict)
    (hu : ((p.visits lines).map fun v => v.record.segments).Nodup)
    (hv : (p.visits lines)[i]? = some v) (hd : 1 ≤ v.record.depth)
    (hw : (p.visits lines)[j]? = some w) (hb : w.record.IsBelow v.record) :
    i < j ∧ ∀ k u, i < k → k ≤ j → (p.visits lines)[k]? = some u →
      u.record.IsBelow v.record := by
  induction j generalizing w with
  | zero =>
    have hp := hb.isPrefix_dropLast
    rw [parent_first hm hw, List.prefix_nil] at hp
    simp [Record.depth, hp] at hd
  | succ j ih =>
    obtain ⟨x, hx⟩ := exists_visit_of_le (Nat.le_succ j) hw
    have hp := hb.isPrefix_dropLast.trans (parent_isPrefix hm hx hw)
    by_cases hs : v.record.segments = x.record.segments
    · obtain rfl := eq_of_segments_eq hu hv hx hs
      refine ⟨Nat.lt_succ_self i, fun k u hk hkj hu => ?_⟩
      obtain rfl : k = i + 1 := by omega
      obtain rfl := Option.some.inj (hw.symm.trans hu)
      exact hb
    · obtain ⟨hij, hall⟩ := ih hx ⟨hp, hs⟩
      refine ⟨Nat.lt_succ_of_lt hij, fun k u hk hkj hu => ?_⟩
      rcases Nat.lt_or_ge j k with hjk | hjk
      · obtain rfl : k = j + 1 := by omega
        obtain rfl := Option.some.inj (hw.symm.trans hu)
        exact hb
      · exact hall k u hk hjk hu

end Pass

end SubtreePartition
