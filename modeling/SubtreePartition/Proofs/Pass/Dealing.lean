import Mathlib.Data.List.Induction
import Mathlib.Data.Nat.Init
import SubtreePartition.Pass
import SubtreePartition.Proofs.Partition.Holder

namespace SubtreePartition.Pass

variable {p : Planner} {items : List Item}

def octets (lines : List Bytes) : Nat :=
  (lines.map List.length).sum

theorem octets_nil : octets [] = 0 := rfl

theorem octets_singleton (raw : Bytes) : octets [raw] = raw.length := rfl

theorem octets_append (ls ms : List Bytes) : octets (ls ++ ms) = octets ls + octets ms := by
  rw [octets, List.map_append, List.sum_append]
  rfl

theorem octets_concat (lines : List Bytes) (raw : Bytes) :
    octets (lines ++ [raw]) = octets lines + raw.length := by
  rw [octets_append, octets_singleton]

theorem octets_eq (lines : List Bytes) : octets lines = lines.flatten.length :=
  List.length_flatten.symm

structure Dealing where
  closed : List (List Bytes)
  draft : Draft

namespace Dealing

def step (p : Planner) (s : Dealing) (item : Item) : Dealing :=
  if p.cut s.draft.size s.draft.index item.ancestors then
    ⟨s.draft.lines.reverse :: s.closed, .start (s.draft.index + 1) item.raw⟩
  else ⟨s.closed, s.draft.add item.raw⟩

def groups (s : Dealing) : List (List Bytes) :=
  (s.draft.lines.reverse :: s.closed).reverse

def start : Dealing :=
  ⟨[], ⟨1, [], 0⟩⟩

def run (p : Planner) (items : List Item) : Dealing :=
  items.foldl (step p) start

theorem dealFrom_eq (p : Planner) (s : Dealing) (items : List Item) :
    dealFrom p s.closed s.draft items = (items.foldl (step p) s).groups := by
  induction items generalizing s with
  | nil => rfl
  | cons item rest ih =>
    rw [List.foldl_cons, ← ih, dealFrom, step]
    split <;> rfl

theorem deal_eq (p : Planner) (items : List Item) : deal p items = (run p items).groups :=
  dealFrom_eq p start items

theorem deal_eq_concat (p : Planner) (items : List Item) :
    deal p items = (run p items).closed.reverse ++ [(run p items).draft.lines.reverse] := by
  rw [deal_eq, groups, List.reverse_cons]

theorem run_concat (p : Planner) (items : List Item) (item : Item) :
    run p (items ++ [item]) = (run p items).step p item := by
  simp [run, List.foldl_append]

structure Sound (s : Dealing) : Prop where
  index : s.draft.index = s.closed.length + 1
  size : s.draft.size = octets s.draft.lines.reverse

theorem Sound.step {s : Dealing} (h : s.Sound) (p : Planner) (item : Item) :
    (s.step p item).Sound := by
  unfold Dealing.step
  split
  · exact ⟨by simp [Draft.start, h.index], by simp [Draft.start, octets]⟩
  · refine ⟨h.index, ?_⟩
    rw [Draft.add, List.reverse_cons, octets_concat, ← h.size]

theorem sound_run (p : Planner) (items : List Item) : (run p items).Sound := by
  induction items using List.reverseRecOn with
  | nil => exact ⟨rfl, rfl⟩
  | append_singleton items item ih =>
    rw [run_concat]
    exact ih.step p item

end Dealing

theorem exists_dealFrom_eq (p : Planner) (closed : List (List Bytes)) (d : Draft)
    (items : List Item) :
    ∃ next rest, dealFrom p closed d items = closed.reverse ++ next :: rest := by
  induction items generalizing closed d with
  | nil => exact ⟨d.lines.reverse, [], by simp [dealFrom]⟩
  | cons item more ih =>
    unfold dealFrom
    split
    · obtain ⟨next, rest, h⟩ := ih (d.lines.reverse :: closed) (.start (d.index + 1) item.raw)
      exact ⟨d.lines.reverse, next :: rest, by simpa using h⟩
    · exact ih closed (d.add item.raw)

theorem exists_deal_eq (p : Planner) (items : List Item) :
    ∃ front last, deal p items = front ++ [last] :=
  ⟨_, _, Dealing.deal_eq_concat p items⟩

theorem deal_concat {front : List (List Bytes)} {last : List Bytes} (item : Item)
    (h : deal p items = front ++ [last]) :
    deal p (items ++ [item]) =
      if p.cut (octets last) (front.length + 1) item.ancestors then front ++ [last, [item.raw]]
      else front ++ [last ++ [item.raw]] := by
  have hs := Dealing.sound_run p items
  rw [Dealing.deal_eq_concat] at h
  obtain ⟨rfl, hlast⟩ := List.append_inj' h rfl
  obtain rfl : (Dealing.run p items).draft.lines.reverse = last := by simpa using hlast
  have hi : ((Dealing.run p items).draft.index : Int) =
      ((Dealing.run p items).closed.reverse.length : Int) + 1 := by
    simp [hs.index]
  rw [Dealing.deal_eq, Dealing.run_concat, Dealing.step, hi, hs.size]
  split <;> simp [Dealing.groups, Draft.start, Draft.add]

theorem sum_length_deal (p : Planner) (items : List Item) :
    ((deal p items).map List.length).sum = items.length := by
  rw [← List.length_flatten, flatten_deal, List.length_map]

theorem length_deal_concat_of_illegal {item : Item} (h : p.legal item.ancestors = false) :
    (deal p (items ++ [item])).length = (deal p items).length := by
  obtain ⟨front, last, hd⟩ := exists_deal_eq p items
  rw [deal_concat item hd, Planner.cut, h, hd]
  simp

theorem blockOf_deal_concat {n : Nat} (item : Item) (h : n < items.length) :
    blockOf ((deal p (items ++ [item])).map List.length) n =
      blockOf ((deal p items).map List.length) n := by
  obtain ⟨front, last, hd⟩ := exists_deal_eq p items
  have htotal := sum_length_deal p items
  rw [hd] at htotal
  rw [deal_concat item hd, hd]
  simp only [List.map_append, List.map_cons, List.map_nil, List.sum_append, List.sum_cons,
    List.sum_nil] at htotal
  split
  · have hlt : n < (front.map List.length ++ [last.length]).sum := by
      simp only [List.sum_append, List.sum_cons, List.sum_nil]
      omega
    have hleft := blockOf_append_left hlt [1]
    simpa using hleft
  · simp only [List.map_append, List.map_cons, List.map_nil, List.length_append,
      List.length_cons, List.length_nil]
    exact blockOf_concat_of_le _ (by omega) (by omega)

theorem exists_deal_concat_eq (p : Planner) (items : List Item) (item : Item) :
    ∃ front last, deal p (items ++ [item]) = front ++ [last ++ [item.raw]] := by
  obtain ⟨front, last, hd⟩ := exists_deal_eq p items
  rw [deal_concat item hd]
  split
  · exact ⟨front ++ [last], [], by simp⟩
  · exact ⟨front, last, rfl⟩

theorem blockOf_deal_last (p : Planner) (items : List Item) (item : Item) :
    blockOf ((deal p (items ++ [item])).map List.length) items.length =
      some ((deal p (items ++ [item])).length - 1) := by
  obtain ⟨front, last, hd⟩ := exists_deal_concat_eq p items item
  have htotal := sum_length_deal p (items ++ [item])
  rw [hd] at htotal ⊢
  simp only [List.map_append, List.map_cons, List.map_nil, List.sum_append, List.sum_cons,
    List.sum_nil, List.length_append, List.length_cons, List.length_nil] at htotal ⊢
  rw [blockOf_concat_sum _ (by omega) (by omega), List.length_map]
  rfl

theorem blockOf_deal {n : Nat} (h : n < items.length) :
    blockOf ((deal p items).map List.length) n =
      some ((deal p (items.take (n + 1))).length - 1) := by
  induction items using List.reverseRecOn with
  | nil => simp at h
  | append_singleton items item ih =>
    by_cases hn : n < items.length
    · rw [List.take_append_of_le_length (by omega), blockOf_deal_concat item hn, ih hn]
    · obtain rfl : n = items.length := by
        rw [List.length_append, List.length_singleton] at h
        omega
      rw [List.take_of_length_le (by simp), blockOf_deal_last]

theorem blockOf_deal_eq_of_illegal {i j : Nat} (hij : i ≤ j) (hj : j < items.length)
    (h : ∀ k item, i < k → k ≤ j → items[k]? = some item → p.legal item.ancestors = false) :
    blockOf ((deal p items).map List.length) j = blockOf ((deal p items).map List.length) i := by
  induction j, hij using Nat.le_induction with
  | base => rfl
  | succ j hij ih =>
    have hat : items[j + 1]? = some items[j + 1] := List.getElem?_eq_getElem hj
    have hill : p.legal items[j + 1].ancestors = false := h (j + 1) _ (by omega) (by omega) hat
    have htake : items.take (j + 1 + 1) = items.take (j + 1) ++ [items[j + 1]] := by
      rw [List.take_add_one, hat]
      rfl
    rw [blockOf_deal hj, htake, length_deal_concat_of_illegal hill,
      ← blockOf_deal (show j < items.length by omega)]
    exact ih (by omega) fun k item hk hkj => h k item hk (by omega)

end SubtreePartition.Pass
