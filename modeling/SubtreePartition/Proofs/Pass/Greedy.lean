import SubtreePartition.Proofs.Ancestry.Faithful
import SubtreePartition.Proofs.Pass.Dealing
import SubtreePartition.Proofs.Pass.Visits

namespace SubtreePartition.Pass

open Record

variable {α : Type}

def slices : List Nat → List α → List (List α)
  | [], _ => []
  | [a], l => [l.drop a]
  | a :: b :: rest, l => (l.take b).drop a :: slices (b :: rest) l

theorem slices_concat {init : List Nat} {a : Nat} (l : List α) (h : ∀ x ∈ init, x ≤ a) :
    slices (init ++ [a]) l = slices init (l.take a) ++ [l.drop a] := by
  induction init with
  | nil => rfl
  | cons x init ih =>
    have hrest := ih fun y hy => h y (List.mem_cons_of_mem x hy)
    cases init with
    | nil => rfl
    | cons y init =>
      have hy : y ≤ a := h y (by simp)
      simp only [List.cons_append, slices, List.take_take, Nat.min_eq_left hy] at hrest ⊢
      rw [hrest]

theorem length_slices (starts : List Nat) (l : List α) :
    (slices starts l).length = starts.length := by
  induction starts with
  | nil => rfl
  | cons a rest ih =>
    cases rest with
    | nil => rfl
    | cons b rest =>
      rw [slices, List.length_cons, ih]
      rfl

def StartsAt (p : Planner) (rs : List Record) (lines : List Bytes) (before : List Nat) (n : Nat) :
    Prop :=
  p.threshold < octets ((lines.take n).drop (before.getLast?.getD 0)) ∧
    before.length < p.maxPartitions ∧
      ∀ r ∈ rs[n]?, ¬ IsSheltered p.protectedSet (rs.take n) r

instance (p : Planner) (rs : List Record) (lines : List Bytes) (before : List Nat) (n : Nat) :
    Decidable (StartsAt p rs lines before n) :=
  inferInstanceAs (Decidable (_ ∧ _ ∧ ∀ r ∈ rs[n]?, ¬ IsSheltered p.protectedSet (rs.take n) r))

def starts (p : Planner) (rs : List Record) (lines : List Bytes) : Nat → List Nat
  | 0 => [0]
  | n + 1 =>
      if StartsAt p rs lines (starts p rs lines n) (n + 1) then starts p rs lines n ++ [n + 1]
      else starts p rs lines n

def cuts (p : Pass) (lines : List Bytes) : List Nat :=
  starts p.planner (p.records lines) lines (lines.length - 1)

theorem le_of_mem_starts {p : Planner} {rs : List Record} {lines : List Bytes} {n m : Nat}
    (h : m ∈ starts p rs lines n) : m ≤ n := by
  induction n with
  | zero => exact Nat.le_of_eq (List.mem_singleton.mp h)
  | succ n ih =>
    rw [starts] at h
    split at h
    · rcases List.mem_append.mp h with h | h
      · exact Nat.le_succ_of_le (ih h)
      · exact Nat.le_of_eq (List.mem_singleton.mp h)
    · exact Nat.le_succ_of_le (ih h)

theorem mem_starts_iff (p : Planner) (rs : List Record) (lines : List Bytes) {n m : Nat}
    (h : n + 1 ≤ m) :
    n + 1 ∈ starts p rs lines m ↔ StartsAt p rs lines (starts p rs lines n) (n + 1) := by
  induction m, h using Nat.le_induction with
  | base =>
    rw [starts]
    split
    next hs => simp [hs]
    next hs =>
      refine iff_of_false (fun hm => ?_) hs
      have := le_of_mem_starts hm
      omega
  | succ m hnm ih =>
    rw [starts, ← ih]
    split
    · have hne : n ≠ m := by omega
      simp [hne]
    · exact Iff.rfl

variable {p : Pass} {lines : List Bytes} {n : Nat}

theorem exists_faithful (hm : p.mode = .strict) {v : Visit}
    (hv : (p.visits lines)[n]? = some v) :
    ∃ a, a.enter .strict v.record = (v.chain, none) ∧
      Ancestry.Faithful (((p.visits lines).map Visit.record).take n) a := by
  induction n generalizing v with
  | zero =>
    have he := enter_first hv
    rw [hm] at he
    exact ⟨[], he, Ancestry.faithful_nil _⟩
  | succ n ih =>
    obtain ⟨u, hu⟩ := exists_visit_of_le (Nat.le_succ n) hv
    obtain ⟨a, he, hf⟩ := ih hu
    have hnext := enter_next hu hv
    rw [hm] at hnext
    refine ⟨u.chain, hnext, ?_⟩
    rw [List.take_add_one, List.getElem?_map, hu]
    exact hf.enter he

theorem legal_iff_not_isSheltered (hm : p.mode = .strict) (h : (p.acceptAll lines).2 = none)
    {item : Item} (hi : (p.acceptAll lines).1[n]? = some item) :
    p.planner.legal item.ancestors = true ↔
      ∀ r ∈ (p.records lines)[n]?,
        ¬ IsSheltered p.planner.protectedSet ((p.records lines).take n) r := by
  rw [acceptAll_fst, List.getElem?_map, Option.map_eq_some_iff] at hi
  obtain ⟨v, hv, rfl⟩ := hi
  obtain ⟨a, he, hf⟩ := exists_faithful hm hv
  rw [← map_record_visits h, List.getElem?_map, hv]
  simpa [Visit.item] using hf.legal_iff he p.planner

theorem exists_item (h : (p.acceptAll lines).2 = none) (hn : n < lines.length) :
    ∃ item, lines.take (n + 1) = lines.take n ++ [item.raw] ∧
      (p.acceptAll lines).1[n]? = some item ∧
      (p.acceptAll lines).1.take (n + 1) = (p.acceptAll lines).1.take n ++ [item] := by
  have hlt : n < (p.acceptAll lines).1.length := by
    rw [length_acceptAll h]
    exact hn
  obtain ⟨item, hi⟩ : ∃ item, (p.acceptAll lines).1[n]? = some item :=
    ⟨_, List.getElem?_eq_getElem hlt⟩
  have hmap : (p.acceptAll lines).1.map Item.raw = lines := by
    rw [map_raw_acceptAll, map_raw_visits h]
  have hraw : lines[n]? = some item.raw := by
    calc
      lines[n]? = ((p.acceptAll lines).1.map Item.raw)[n]? := by rw [hmap]
      _ = some item.raw := by rw [List.getElem?_map, hi, Option.map_some]
  refine ⟨item, ?_, hi, ?_⟩
  · rw [List.take_add_one, hraw]
    rfl
  · rw [List.take_add_one, hi]
    rfl

structure DealtAs (p : Pass) (lines : List Bytes) (n : Nat) (init : List Nat) (a : Nat) : Prop where
  starts_eq : starts p.planner (p.records lines) lines n = init ++ [a]
  ordered : ∀ x ∈ init, x ≤ a
  last_le : a ≤ n
  deal_eq : deal p.planner ((p.acceptAll lines).1.take (n + 1)) =
    slices init (lines.take a) ++ [(lines.take (n + 1)).drop a]

theorem dealtAs_zero (ht : 0 ≤ p.planner.threshold) (h : (p.acceptAll lines).2 = none)
    (hn : 0 < lines.length) : DealtAs p lines 0 [] 0 := by
  obtain ⟨item, hline, -, hitem⟩ := exists_item h hn
  refine ⟨rfl, by simp, Nat.le_refl 0, ?_⟩
  have hnot : p.planner.due (octets []) 1 = false := by
    rw [← Bool.not_eq_true, Planner.due_iff]
    rintro ⟨hlt, -⟩
    exact absurd hlt (Int.not_lt.mpr ht)
  have hnil : deal p.planner [] = [] ++ [[]] := rfl
  have hdeal := deal_concat item hnil
  rw [hitem, hline, List.take_zero, List.take_zero, hdeal]
  simp [Planner.cut, hnot, slices]

theorem cut_iff_startsAt (hm : p.mode = .strict) (h : (p.acceptAll lines).2 = none)
    {init : List Nat} {a : Nat} (hd : DealtAs p lines n init a) {item : Item}
    (hi : (p.acceptAll lines).1[n + 1]? = some item) :
    p.planner.cut (octets ((lines.take (n + 1)).drop a))
        ((slices init (lines.take a)).length + 1) item.ancestors = true ↔
      StartsAt p.planner (p.records lines) lines
        (starts p.planner (p.records lines) lines n) (n + 1) := by
  rw [Planner.cut_iff, Planner.due_iff, legal_iff_not_isSheltered hm h hi, length_slices, StartsAt,
    hd.starts_eq, and_assoc]
  simp

theorem DealtAs.start {init : List Nat} {a : Nat} {raw : Bytes} (hd : DealtAs p lines n init a)
    (hn : n + 1 < lines.length) (hline : lines.take (n + 2) = lines.take (n + 1) ++ [raw])
    (hs : StartsAt p.planner (p.records lines) lines
      (starts p.planner (p.records lines) lines n) (n + 1))
    (hdeal : deal p.planner ((p.acceptAll lines).1.take (n + 2)) =
      slices init (lines.take a) ++ [(lines.take (n + 1)).drop a, [raw]]) :
    DealtAs p lines (n + 1) (init ++ [a]) (n + 1) := by
  have hle := hd.last_le
  have hlen : (lines.take (n + 1)).length = n + 1 := by
    rw [List.length_take]
    omega
  have hdrop : (lines.take (n + 2)).drop (n + 1) = [raw] := by
    rw [hline, List.drop_append_of_le_length (by omega), List.drop_of_length_le (by omega)]
    rfl
  refine ⟨?_, ?_, Nat.le_refl _, ?_⟩
  · rw [starts, if_pos hs, hd.starts_eq]
  · intro x hx
    rcases List.mem_append.mp hx with hx | hx
    · have := hd.ordered x hx
      omega
    · obtain rfl := List.mem_singleton.mp hx
      omega
  · rw [hdeal, hdrop, slices_concat _ hd.ordered, List.take_take, Nat.min_eq_left (by omega),
      List.append_assoc]
    rfl

theorem DealtAs.stay {init : List Nat} {a : Nat} {raw : Bytes} (hd : DealtAs p lines n init a)
    (hn : n + 1 < lines.length) (hline : lines.take (n + 2) = lines.take (n + 1) ++ [raw])
    (hs : ¬ StartsAt p.planner (p.records lines) lines
      (starts p.planner (p.records lines) lines n) (n + 1))
    (hdeal : deal p.planner ((p.acceptAll lines).1.take (n + 2)) =
      slices init (lines.take a) ++ [(lines.take (n + 1)).drop a ++ [raw]]) :
    DealtAs p lines (n + 1) init a := by
  have hle := hd.last_le
  have hlen : (lines.take (n + 1)).length = n + 1 := by
    rw [List.length_take]
    omega
  refine ⟨?_, hd.ordered, Nat.le_succ_of_le hle, ?_⟩
  · rw [starts, if_neg hs, hd.starts_eq]
  · rw [hdeal, hline, List.drop_append_of_le_length (by omega)]

theorem dealtAs_succ (hm : p.mode = .strict) (h : (p.acceptAll lines).2 = none)
    (hn : n + 1 < lines.length) {init : List Nat} {a : Nat} (hd : DealtAs p lines n init a) :
    ∃ init' a', DealtAs p lines (n + 1) init' a' := by
  obtain ⟨item, hline, hi, hitem⟩ := exists_item h hn
  have hstep := deal_concat item hd.deal_eq
  rw [← hitem, if_congr (cut_iff_startsAt hm h hd hi) rfl rfl] at hstep
  split at hstep
  next hs => exact ⟨init ++ [a], n + 1, hd.start hn hline hs hstep⟩
  next hs => exact ⟨init, a, hd.stay hn hline hs hstep⟩

theorem exists_dealtAs (hm : p.mode = .strict) (ht : 0 ≤ p.planner.threshold)
    (h : (p.acceptAll lines).2 = none) (hn : n < lines.length) :
    ∃ init a, DealtAs p lines n init a := by
  induction n with
  | zero => exact ⟨[], 0, dealtAs_zero ht h hn⟩
  | succ n ih =>
    obtain ⟨init, a, hd⟩ := ih (by omega)
    exact dealtAs_succ hm h hn hd

theorem deal_eq_slices (hm : p.mode = .strict) (ht : 0 ≤ p.planner.threshold)
    (h : (p.acceptAll lines).2 = none) :
    deal p.planner (p.acceptAll lines).1 = slices (p.cuts lines) lines := by
  have hlen := length_acceptAll h
  rcases Nat.eq_zero_or_pos lines.length with hz | hpos
  · rw [List.length_eq_zero_iff.mp (hlen.trans hz), List.length_eq_zero_iff.mp hz]
    rfl
  · obtain ⟨init, a, hd⟩ := exists_dealtAs hm ht h (show lines.length - 1 < lines.length by omega)
    have hdeal := hd.deal_eq
    rw [show lines.length - 1 + 1 = lines.length by omega, List.take_length,
      List.take_of_length_le (Nat.le_of_eq hlen)] at hdeal
    rw [hdeal, cuts, hd.starts_eq, slices_concat _ hd.ordered]

theorem exists_latest_ancestor (hm : p.mode = .strict) (h : (p.acceptAll lines).2 = none)
    {r : Record} {k : Nat} (hr : (p.records lines)[n]? = some r) (hk : 1 ≤ k) (hkd : k < r.depth) :
    ∃ q, latest ((p.records lines).take n) (r.segments.take k) = some q := by
  rw [← map_record_visits h, List.getElem?_map, Option.map_eq_some_iff] at hr
  obtain ⟨v, hv, rfl⟩ := hr
  obtain ⟨a, he, hf⟩ := exists_faithful hm hv
  obtain ⟨m, rfl⟩ : ∃ m, k = m + 1 := ⟨k - 1, by omega⟩
  obtain ⟨q, hq, -⟩ := hf.ancestor he hkd
  exact ⟨q, by rw [← map_record_visits h, hq]⟩

end SubtreePartition.Pass
