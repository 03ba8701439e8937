import SubtreePartition.Ancestry

namespace SubtreePartition.Ancestry

variable {mode : OrderMode} {a a' : Ancestry} {r : Record}

theorem segments_take (a : Ancestry) (n : Nat) :
    segments (a.take n) = a.segments.take n := by
  simp [segments, List.map_take]

theorem segments_append (a b : Ancestry) : segments (a ++ b) = a.segments ++ b.segments := by
  simp [segments]

theorem categories_take (a : Ancestry) (n : Nat) :
    categories (a.take n) = a.categories.take n := by
  simp [categories, List.map_take]

theorem categories_append (a b : Ancestry) :
    categories (a ++ b) = a.categories ++ b.categories := by
  simp [categories]

theorem length_segments (a : Ancestry) : a.segments.length = a.length := by
  simp [segments]

theorem length_categories (a : Ancestry) : a.categories.length = a.length := by
  simp [categories]

theorem enter_root (mode : OrderMode) (a : Ancestry) (h : r.segments = []) :
    a.enter mode r = ([], none) := by
  simp [enter, h]

theorem enter_child {front : List Text} {last : Text} (mode : OrderMode) (a : Ancestry)
    (h : r.segments = front ++ [last]) :
    a.enter mode r =
      if mode = .strict ∧ front ≠ a.segments.take front.length then
        (a.take front.length, some ⟨r.path, path (a.take front.length)⟩)
      else (a.take front.length ++ [⟨last, r.category⟩], none) := by
  have hd : r.depth - 1 = front.length := by simp [Record.depth, h]
  have hf : r.segments.dropLast = front := by simp [h]
  have hl : r.segments.getLast? = some last := by simp [h]
  simp only [enter, hl, hd, hf, segments_take]

theorem enter_ok_cases (h : a.enter mode r = (a', none)) :
    (r.segments = [] ∧ a' = []) ∨
      ∃ front last, r.segments = front ++ [last] ∧
        (mode = .strict → front = a.segments.take front.length) ∧
        a' = a.take front.length ++ [⟨last, r.category⟩] := by
  rcases List.eq_nil_or_concat r.segments with hs | ⟨front, last, hs⟩
  · rw [enter_root mode a hs] at h
    exact .inl ⟨hs, (congrArg Prod.fst h).symm⟩
  · rw [List.concat_eq_append] at hs
    rw [enter_child mode a hs] at h
    split at h
    next => exact absurd (congrArg Prod.snd h) (by simp)
    next hn =>
      have hparent : mode = .strict → front = a.segments.take front.length :=
        fun hm => Decidable.byContradiction fun hne => hn ⟨hm, hne⟩
      exact .inr ⟨front, last, hs, hparent, (congrArg Prod.fst h).symm⟩

theorem enter_refused_cases {fault : Unsorted} (h : a.enter mode r = (a', some fault)) :
    ∃ front last, r.segments = front ++ [last] ∧ mode = .strict ∧
      front ≠ a.segments.take front.length ∧ a' = a.take front.length ∧
      fault = ⟨r.path, path a'⟩ := by
  rcases List.eq_nil_or_concat r.segments with hs | ⟨front, last, hs⟩
  · rw [enter_root mode a hs] at h
    cases h
  · rw [List.concat_eq_append] at hs
    rw [enter_child mode a hs] at h
    split at h
    next hn =>
      obtain ⟨rfl, hfault⟩ := Prod.mk.inj h
      exact ⟨front, last, hs, hn.1, hn.2, rfl, (Option.some.inj hfault).symm⟩
    next => cases h

theorem enter_strict (h : a.enter .strict r = (a', none)) :
    a'.segments = r.segments ∧ r.segments.dropLast <+: a.segments := by
  rcases enter_ok_cases h with ⟨hs, rfl⟩ | ⟨front, last, hs, hparent, rfl⟩
  · exact ⟨hs.symm, by simp [hs]⟩
  · have hfront : front = a.segments.take front.length := hparent rfl
    constructor
    · rw [segments_append, segments_take, ← hfront, hs]
      rfl
    · rw [hs, List.dropLast_concat, hfront]
      exact List.take_prefix _ _

def Attaches (path next : List Text) : Prop :=
  next.dropLast <+: path

theorem enter_of_attaches (h : Attaches a.segments r.segments) :
    ∃ a', a.enter .strict r = (a', none) := by
  rcases List.eq_nil_or_concat r.segments with hs | ⟨front, last, hs⟩
  · exact ⟨[], enter_root .strict a hs⟩
  · rw [List.concat_eq_append] at hs
    rw [Attaches, hs, List.dropLast_concat] at h
    have hfront : front = a.segments.take front.length := List.prefix_iff_eq_take.mp h
    refine ⟨a.take front.length ++ [⟨last, r.category⟩], ?_⟩
    rw [enter_child .strict a hs, if_neg (fun hn => hn.2 hfront)]

theorem isPrefix_dropLast {p l : List Text} (h : p <+: l) (hne : p ≠ l) : p <+: l.dropLast := by
  rcases List.eq_nil_or_concat l with rfl | ⟨front, last, rfl⟩
  · exact absurd (List.prefix_nil.mp h) hne
  · rw [List.concat_eq_append] at h hne ⊢
    rw [List.dropLast_concat]
    exact (List.prefix_concat_iff.mp h).resolve_left hne

end SubtreePartition.Ancestry
