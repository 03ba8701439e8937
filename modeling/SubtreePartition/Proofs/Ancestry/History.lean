import Mathlib.Data.List.Induction
import SubtreePartition.Proofs.Ancestry.Faithful

namespace SubtreePartition.Ancestry

open Record

variable {mode : OrderMode} {a : Ancestry} {r : Record} {rs : List Record}

structure History where
  chain : Ancestry
  accepted : List Record

namespace History

def next (mode : OrderMode) (h : History) (r : Record) : History :=
  match h.chain.enter mode r with
  | (a, none) => ⟨a, h.accepted ++ [r]⟩
  | (a, some _) => ⟨a, h.accepted⟩

def of (mode : OrderMode) (rs : List Record) : History :=
  rs.foldl (next mode) ⟨[], []⟩

theorem of_concat (mode : OrderMode) (rs : List Record) (r : Record) :
    of mode (rs ++ [r]) = (of mode rs).next mode r := by
  simp [of, List.foldl_append]

theorem chain_next (mode : OrderMode) (h : History) (r : Record) :
    (h.next mode r).chain = (h.chain.enter mode r).1 := by
  unfold next
  split
  next he => rw [he]
  next he => rw [he]

theorem next_cases (mode : OrderMode) (h : History) (r : Record) :
    (∃ a, h.chain.enter mode r = (a, none) ∧ h.next mode r = ⟨a, h.accepted ++ [r]⟩) ∨
      ∃ n fault, h.chain.enter mode r = (h.chain.take n, some fault) ∧
        h.next mode r = ⟨h.chain.take n, h.accepted⟩ := by
  rcases he : h.chain.enter mode r with ⟨a, _ | fault⟩
  · exact .inl ⟨a, rfl, by simp only [next, he]⟩
  · obtain ⟨front, -, -, -, -, rfl, -⟩ := enter_refused_cases he
    exact .inr ⟨front.length, fault, rfl, by simp only [next, he]⟩

theorem faithful_of (rs : List Record) : Faithful (of .strict rs).accepted (of .strict rs).chain := by
  induction rs using List.reverseRecOn with
  | nil => exact faithful_nil []
  | append_singleton rs r ih =>
    rw [of_concat]
    rcases (of .strict rs).next_cases .strict r with ⟨a, he, hn⟩ | ⟨n, fault, -, hn⟩
    · rw [hn]
      exact ih.enter he
    · rw [hn]
      exact ih.take n

end History

/-- The same chain as two stacks, each cut and pushed on its own by the length of the first. -/
structure Stacks where
  categories : List Text
  segments : List Text

namespace Stacks

def cut (s : Stacks) (depth : Nat) : Stacks :=
  if depth ≤ s.categories.length then
    ⟨s.categories.take (depth - 1), s.segments.take (depth - 1)⟩
  else s

def enter (mode : OrderMode) (s : Stacks) (r : Record) : Stacks :=
  match r.segments.getLast? with
  | none => ⟨[], []⟩
  | some last =>
      let kept := s.cut r.depth
      if mode = .strict ∧ r.segments.dropLast ≠ kept.segments then kept
      else ⟨kept.categories ++ [r.category], kept.segments ++ [last]⟩

def of (mode : OrderMode) (rs : List Record) : Stacks :=
  rs.foldl (enter mode) ⟨[], []⟩

theorem of_concat (mode : OrderMode) (rs : List Record) (r : Record) :
    of mode (rs ++ [r]) = (of mode rs).enter mode r := by
  simp [of, List.foldl_append]

end Stacks

def toStacks (a : Ancestry) : Stacks :=
  ⟨a.categories, a.segments⟩

theorem cut_toStacks (a : Ancestry) (depth : Nat) (h : 1 ≤ depth) :
    a.toStacks.cut depth = toStacks (a.take (depth - 1)) := by
  unfold Stacks.cut toStacks
  rw [length_categories, categories_take, segments_take]
  split
  next => rfl
  next hlt =>
    rw [List.take_of_length_le (by rw [length_categories]; omega),
      List.take_of_length_le (by rw [length_segments]; omega)]

theorem enter_toStacks (mode : OrderMode) (a : Ancestry) (r : Record) :
    a.toStacks.enter mode r = toStacks (a.enter mode r).1 := by
  unfold Stacks.enter Ancestry.enter
  cases hl : r.segments.getLast? with
  | none => rfl
  | some last =>
    have hd : 1 ≤ r.depth := by
      unfold depth
      cases hs : r.segments with
      | nil => simp [hs] at hl
      | cons => simp
    simp only [cut_toStacks a r.depth hd]
    have hsegments : (toStacks (a.take (r.depth - 1))).segments =
        segments (a.take (r.depth - 1)) := rfl
    rw [hsegments]
    split
    · rfl
    · simp only [toStacks, categories_append, segments_append]
      rfl

theorem stacks_of (mode : OrderMode) (rs : List Record) :
    Stacks.of mode rs = toStacks (History.of mode rs).chain := by
  induction rs using List.reverseRecOn with
  | nil => rfl
  | append_singleton rs r ih =>
    rw [Stacks.of_concat, ih, enter_toStacks, History.of_concat, History.chain_next]

/-- What holds of the chain after any records in strict order, of which some were refused. -/
structure KeepsTrack (rs : List Record) : Prop where
  twoStacks : Stacks.of .strict rs = (History.of .strict rs).chain.toStacks
  lengths : (Stacks.of .strict rs).categories.length = (Stacks.of .strict rs).segments.length
  own : ∀ front r a, rs = front ++ [r] →
    (History.of .strict front).chain.enter .strict r = (a, none) →
      (History.of .strict rs).chain = a ∧ a.segments = r.segments ∧ a.length = r.depth
  latest : ∀ i, i < (History.of .strict rs).chain.length →
    ∃ q, Record.latest (History.of .strict rs).accepted
        ((History.of .strict rs).chain.segments.take (i + 1)) = some q ∧
      (History.of .strict rs).chain.categories[i]? = some q.category

theorem keepsTrack_of_records (rs : List Record) : KeepsTrack rs := by
  have hstacks := stacks_of .strict rs
  refine ⟨hstacks, ?_, ?_, ?_⟩
  · rw [hstacks, toStacks, length_categories, length_segments]
  · rintro front r a rfl he
    refine ⟨?_, (enter_strict he).1, length_of_strict he⟩
    rw [History.of_concat, History.chain_next, he]
  · intro i hi
    have hlt : i < (History.of .strict rs).chain.categories.length := by
      rw [length_categories]
      exact hi
    have hf := History.faithful_of rs i hi
    rw [List.getElem?_eq_getElem hlt] at hf ⊢
    obtain ⟨q, hq, hc⟩ := Option.map_eq_some_iff.mp hf
    exact ⟨q, hq, congrArg some hc.symm⟩

example :
    (History.of .strict [⟨"/a", "A"⟩, ⟨"/a/b", "B"⟩, ⟨"/c/d", "D"⟩]).chain = [⟨"a", "A"⟩] := by
  decide +kernel

end SubtreePartition.Ancestry
