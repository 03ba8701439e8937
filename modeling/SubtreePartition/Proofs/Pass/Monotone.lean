import SubtreePartition.Proofs.Pass.Dealing
import SubtreePartition.Proofs.Pass.Visits

namespace SubtreePartition

structure Planner.CutsSooner (p q : Planner) : Prop where
  isProtected : ∀ c, p.protectedSet.contains c = true → q.protectedSet.contains c = true
  threshold : p.threshold ≤ q.threshold
  maxPartitions : q.maxPartitions ≤ p.maxPartitions

namespace Planner.CutsSooner

variable {p q : Planner}

theorem legal (h : p.CutsSooner q) {ancestors : List Text} (hl : q.legal ancestors = true) :
    p.legal ancestors = true := by
  rw [legal_iff] at hl ⊢
  intro c hc
  have hq := hl c hc
  rw [← Bool.not_eq_true] at hq ⊢
  exact mt (h.isProtected c) hq

theorem due (h : p.CutsSooner q) {size size' index : Int} (hs : size' ≤ size)
    (hd : q.due size' index = true) : p.due size index = true := by
  rw [due_iff] at hd ⊢
  have ht := h.threshold
  have hm := h.maxPartitions
  omega

end Planner.CutsSooner

namespace Pass

variable {p q : Planner} {front front' : List (List Bytes)} {last last' : List Bytes}

def withPlanner (p : Pass) (q : Planner) : Pass :=
  { p with planner := q }

theorem acceptFrom_withPlanner (p : Pass) (q : Planner) (done : List Item) (a : Ancestry)
    (lines : List Bytes) : (p.withPlanner q).acceptFrom done a lines = p.acceptFrom done a lines := by
  induction lines generalizing done a with
  | nil => rfl
  | cons raw rest ih =>
    have haccept : (p.withPlanner q).accept a raw = p.accept a raw := rfl
    simp only [acceptFrom, haccept, ih]

theorem acceptAll_withPlanner (p : Pass) (q : Planner) (lines : List Bytes) :
    (p.withPlanner q).acceptAll lines = p.acceptAll lines :=
  p.acceptFrom_withPlanner q [] [] lines

/-- Of two divisions of the same lines into closed groups and an open one, the second has closed no
more groups, has opened each no earlier, and if it has closed as many its open group is no larger. -/
structure Sooner (front front' : List (List Bytes)) (last last' : List Bytes) : Prop where
  lines : (front.map List.length).sum + last.length =
    (front'.map List.length).sum + last'.length
  closed : front'.length ≤ front.length
  start : ∀ k ≤ front'.length,
    blockStart (front.map List.length) k ≤ blockStart (front'.map List.length) k
  draft : front'.length = front.length → octets last' ≤ octets last

namespace Sooner

theorem nil : Sooner [] [] [] [] :=
  ⟨rfl, Nat.le_refl _, fun _ _ => by simp, fun _ => Nat.le_refl _⟩

theorem start_left (h : Sooner front front' last last') {k : Nat} (hk : k ≤ front'.length) :
    blockStart ((front ++ [last]).map List.length) k ≤ blockStart (front'.map List.length) k := by
  have hle := h.closed
  rw [List.map_append, blockStart_append_left (by rw [List.length_map]; omega)]
  exact h.start k hk

theorem start_concat (h : Sooner front front' last last') {groups : List (List Bytes)}
    (hg : ∀ k ≤ front'.length,
      blockStart (groups.map List.length) k ≤ blockStart (front'.map List.length) k)
    (hl : (groups.map List.length).sum ≤ (front.map List.length).sum + last.length) {k : Nat}
    (hk : k ≤ (front' ++ [last']).length) :
    blockStart (groups.map List.length) k ≤
      blockStart ((front' ++ [last']).map List.length) k := by
  rcases Nat.lt_or_eq_of_le hk with hlt | rfl
  · rw [List.length_append, List.length_singleton] at hlt
    rw [List.map_append, blockStart_append_left (by rw [List.length_map]; omega)]
    exact hg k (by omega)
  · have hall : blockStart ((front' ++ [last']).map List.length) (front' ++ [last']).length =
        (front.map List.length).sum + last.length := by
      rw [← List.length_map List.length, blockStart_length, List.map_append, List.sum_append, h.lines]
      rfl
    rw [hall]
    exact Nat.le_trans (blockStart_le_sum _ _) hl

theorem cut_both (h : Sooner front front' last last') (raw : Bytes) :
    Sooner (front ++ [last]) (front' ++ [last']) [raw] [raw] := by
  have hlines := h.lines
  have hclosed := h.closed
  refine ⟨?_, ?_, ?_, fun _ => Nat.le_refl _⟩
  · simp only [List.map_append, List.map_cons, List.map_nil, List.sum_append, List.sum_cons,
      List.sum_nil]
    omega
  · rw [List.length_append, List.length_append, List.length_singleton, List.length_singleton]
    omega
  · intro k hk
    refine h.start_concat (fun k hk => h.start_left hk) ?_ hk
    rw [List.map_append, List.sum_append]
    exact Nat.le_refl _

theorem cut_second (h : Sooner front front' last last') (hlt : front'.length < front.length)
    (raw : Bytes) : Sooner front (front' ++ [last']) (last ++ [raw]) [raw] := by
  have hlines := h.lines
  refine ⟨?_, ?_, ?_, fun _ => ?_⟩
  · simp only [List.map_append, List.map_cons, List.map_nil, List.sum_append, List.sum_cons,
      List.sum_nil, List.length_append, List.length_cons, List.length_nil]
    omega
  · rw [List.length_append]
    exact hlt
  · intro k hk
    exact h.start_concat h.start (Nat.le_add_right _ _) hk
  · rw [octets_singleton, octets_concat]
    exact Nat.le_add_left _ _

theorem cut_first (h : Sooner front front' last last') (raw : Bytes) :
    Sooner (front ++ [last]) front' [raw] (last' ++ [raw]) := by
  have hlines := h.lines
  have hclosed := h.closed
  refine ⟨?_, ?_, fun k hk => h.start_left hk, fun he => ?_⟩
  · simp only [List.map_append, List.map_cons, List.map_nil, List.sum_append, List.sum_cons,
      List.sum_nil, List.length_append, List.length_cons, List.length_nil]
    omega
  · rw [List.length_append]
    omega
  · rw [List.length_append, List.length_singleton] at he
    omega

theorem cut_neither (h : Sooner front front' last last') (raw : Bytes) :
    Sooner front front' (last ++ [raw]) (last' ++ [raw]) := by
  have hlines := h.lines
  refine ⟨?_, h.closed, h.start, fun he => ?_⟩
  · rw [List.length_append, List.length_append]
    omega
  · have hd := h.draft he
    rw [octets_concat, octets_concat]
    omega

theorem startsSooner (h : Sooner front front' last last') :
    StartsSooner ((front ++ [last]).map List.length) ((front' ++ [last']).map List.length) := by
  have hclosed := h.closed
  refine ⟨?_, fun k hk => ?_⟩
  · simp only [List.length_map, List.length_append, List.length_singleton]
    omega
  · simp only [List.length_map, List.length_append, List.length_singleton] at hk
    have hle : k ≤ (front'.map List.length).length := by
      rw [List.length_map]
      omega
    have hlast : (front' ++ [last']).map List.length = front'.map List.length ++ [last'.length] :=
      List.map_append
    rw [hlast, blockStart_append_left hle]
    exact h.start_left (by omega)

theorem cut_of_cut (h : Sooner front front' last last') (hc : p.CutsSooner q)
    (he : front'.length = front.length) {v : Visit}
    (hcut : q.cut (octets last') (front'.length + 1) v.item.ancestors = true) :
    p.cut (octets last) (front.length + 1) v.item.ancestors = true := by
  have hd := h.draft he
  rw [Planner.cut_iff, he] at hcut
  rw [Planner.cut_iff]
  exact ⟨hc.due (by omega) hcut.1, hc.legal hcut.2⟩

end Sooner

theorem exists_sooner (h : p.CutsSooner q) (vs : List Visit) :
    ∃ front last front' last', deal p (vs.map Visit.item) = front ++ [last] ∧
      deal q (vs.map Visit.item) = front' ++ [last'] ∧ Sooner front front' last last' := by
  induction vs using List.reverseRecOn with
  | nil => exact ⟨[], [], [], [], rfl, rfl, .nil⟩
  | append_singleton vs v ih =>
    obtain ⟨front, last, front', last', hd, hd', hs⟩ := ih
    have hclosed := hs.closed
    -- Where only the second rule cuts it has closed fewer groups, and what it opens now the first
    -- rule has opened before.
    rw [List.map_append, List.map_singleton, deal_concat v.item hd, deal_concat v.item hd']
    split
    next hp =>
      split
      next hq =>
        exact ⟨front ++ [last], [v.raw], front' ++ [last'], [v.raw], List.append_cons _ _ _,
          List.append_cons _ _ _, hs.cut_both v.raw⟩
      next hq =>
        exact ⟨front ++ [last], [v.raw], front', last' ++ [v.raw], List.append_cons _ _ _, rfl,
          hs.cut_first v.raw⟩
    next hp =>
      split
      next hq =>
        have hne : front'.length ≠ front.length := fun he => hp (hs.cut_of_cut h he hq)
        exact ⟨front, last ++ [v.raw], front' ++ [last'], [v.raw], rfl, List.append_cons _ _ _,
          hs.cut_second (by omega) v.raw⟩
      next hq =>
        exact ⟨front, last ++ [v.raw], front', last' ++ [v.raw], rfl, rfl, hs.cut_neither v.raw⟩

theorem deal_startsSooner (h : p.CutsSooner q) (vs : List Visit) :
    StartsSooner ((deal p (vs.map Visit.item)).map List.length)
      ((deal q (vs.map Visit.item)).map List.length) := by
  obtain ⟨front, last, front', last', hd, hd', hs⟩ := exists_sooner h vs
  rw [hd, hd']
  exact hs.startsSooner

end Pass

end SubtreePartition
