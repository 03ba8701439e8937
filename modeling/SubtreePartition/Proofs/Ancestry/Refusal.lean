import SubtreePartition.Proofs.Ancestry.History
import SubtreePartition.Proofs.Record.Path

namespace SubtreePartition.Ancestry

open Record

variable {mode : OrderMode} {a a' : Ancestry} {r : Record} {rs : List Record} {fault : Unsorted}

def HasNames (a : Ancestry) : Prop :=
  ∀ name ∈ a.segments, IsName name

theorem HasNames.take (h : a.HasNames) (n : Nat) : HasNames (a.take n) := by
  intro name hn
  rw [segments_take] at hn
  exact h name (List.mem_of_mem_take hn)

theorem HasNames.enter (h : a.HasNames) (he : a.enter mode r = (a', none)) : a'.HasNames := by
  rcases enter_ok_cases he with ⟨-, rfl⟩ | ⟨front, last, hs, -, rfl⟩
  · intro name hn
    cases hn
  · intro name hn
    rw [segments_append] at hn
    rcases List.mem_append.mp hn with hn | hn
    · exact h.take front.length name hn
    · obtain rfl : name = last := by simpa [segments] using hn
      have hm : name ∈ r.segments := by simp [hs]
      exact isName_of_mem hm

theorem hasNames_of (mode : OrderMode) (rs : List Record) : (History.of mode rs).chain.HasNames := by
  induction rs using List.reverseRecOn with
  | nil =>
    intro name hn
    cases hn
  | append_singleton rs r ih =>
    rw [History.of_concat]
    rcases (History.of mode rs).next_cases mode r with ⟨a, he, hn⟩ | ⟨n, fault, -, hn⟩
    · rw [hn]
      exact ih.enter he
    · rw [hn]
      exact ih.take n

theorem segmentsOf_path (h : a.HasNames) : segmentsOf a.path = a.segments :=
  segmentsOf_slash_intercalate h

theorem segmentsOf_child (h : a.HasNames) {name : Text} (hn : IsName name) :
    segmentsOf (a.path ++ Text.slash :: name) = a.segments ++ [name] := by
  rw [segmentsOf_append, segmentsOf_path h, segmentsOf_name hn]

theorem enter_strict_iff :
    (∃ a', a.enter .strict r = (a', none)) ↔
      r.segments = [] ∨ r.segments.dropLast = a.segments.take (r.depth - 1) := by
  have hd : r.segments.dropLast.length = r.depth - 1 := List.length_dropLast
  constructor
  · rintro ⟨a', he⟩
    have hp := (enter_strict he).2
    rw [List.prefix_iff_eq_take, hd] at hp
    exact .inr hp
  · intro h
    refine enter_of_attaches ?_
    rcases h with h | h
    · simp [Attaches, h]
    · rw [Attaches, h]
      exact List.take_prefix _ _

theorem enter_child_of_path (h : a.HasNames) {name : Text} (hn : IsName name) (category : Text) :
    ∃ a', a.enter .strict ⟨a.path ++ Text.slash :: name, category⟩ = (a', none) := by
  have hfront : (segmentsOf (a.path ++ Text.slash :: name)).dropLast = a.segments := by
    rw [segmentsOf_child h hn, List.dropLast_concat]
  have hprefix : (segmentsOf (a.path ++ Text.slash :: name)).dropLast <+: a.segments :=
    hfront ▸ List.prefix_refl _
  exact enter_of_attaches hprefix

structure Refuses (a a' : Ancestry) (r : Record) (fault : Unsorted) : Prop where
  segments : a'.segments = a.segments.take (min a.length (r.depth - 1))
  categories : a'.categories = a.categories.take (min a.length (r.depth - 1))
  path : fault.path = r.path
  expected : Record.segmentsOf fault.expectedParent = a'.segments
  child : ∀ name category, name ≠ [] → Text.slash ∉ name →
    ∃ b, a'.enter .strict ⟨fault.expectedParent ++ Text.slash :: name, category⟩ = (b, none)

theorem refuses_of_enter (h : a.HasNames) (he : a.enter .strict r = (a', some fault)) :
    Refuses a a' r fault := by
  obtain ⟨front, last, hs, -, -, rfl, rfl⟩ := enter_refused_cases he
  have hd : r.depth - 1 = front.length := by simp [depth, hs]
  have hk := h.take front.length
  refine ⟨?_, ?_, rfl, segmentsOf_path hk, ?_⟩
  · rw [segments_take, hd, List.take_eq_take_iff, length_segments]
    omega
  · rw [categories_take, hd, List.take_eq_take_iff, length_categories]
    omega
  · intro name category hne hslash
    exact enter_child_of_path hk ⟨hne, hslash⟩ category

/-- How a chain takes a record in strict order. -/
structure Judges (a : Ancestry) (r : Record) : Prop where
  accepts_iff : (∃ a', a.enter .strict r = (a', none)) ↔
    r.segments = [] ∨ r.segments.dropLast = a.segments.take (r.depth - 1)
  reaches : (∃ a', a.enter .strict r = (a', none)) → r.depth - 1 ≤ a.segments.length
  refuses : ¬ (r.segments = [] ∨ r.segments.dropLast = a.segments.take (r.depth - 1)) →
    ∃ a' fault, a.enter .strict r = (a', some fault) ∧ Refuses a a' r fault

theorem HasNames.judges (h : a.HasNames) (r : Record) : Judges a r := by
  refine ⟨enter_strict_iff, ?_, ?_⟩
  · rintro ⟨a', he⟩
    have hlen := (enter_strict he).2.length_le
    rw [List.length_dropLast] at hlen
    exact hlen
  · intro hn
    rcases he : a.enter .strict r with ⟨a', _ | fault⟩
    · exact absurd (enter_strict_iff.mp ⟨a', he⟩) hn
    · exact ⟨a', fault, rfl, refuses_of_enter h he⟩

/-- Without an order every record is taken; the chain grows by one slot at most. -/
structure TakesAny (a : Ancestry) (r : Record) : Prop where
  accepts : ∃ a', a.enter .lenient r = (a', none)
  length : r.segments ≠ [] → (a.enter .lenient r).1.length = min r.depth (a.length + 1)

theorem takesAny (a : Ancestry) (r : Record) : TakesAny a r := by
  rcases he : a.enter .lenient r with ⟨a', _ | fault⟩
  · refine ⟨⟨a', he⟩, ?_⟩
    intro hn
    rcases enter_ok_cases he with ⟨hs, -⟩ | ⟨front, last, hs, -, rfl⟩
    · exact absurd hs hn
    · rw [he]
      simp only [depth, hs, List.length_append, List.length_take, List.length_singleton]
      omega
  · obtain ⟨-, -, -, hmode, -⟩ := enter_refused_cases he
    cases hmode

theorem judges_of_records (rs : List Record) (r : Record) :
    Judges (History.of .strict rs).chain r ∧ TakesAny (History.of .lenient rs).chain r :=
  ⟨(hasNames_of .strict rs).judges r, takesAny _ r⟩

end SubtreePartition.Ancestry
