import SubtreePartition.Planner
import SubtreePartition.Proofs.Ancestry.Enter

namespace SubtreePartition

namespace Record

def latest (rs : List Record) (path : List Text) : Option Record :=
  (rs.filter fun r => r.segments = path).getLast?

theorem latest_concat (rs : List Record) (r : Record) (path : List Text) :
    latest (rs ++ [r]) path = if r.segments = path then some r else latest rs path := by
  unfold latest
  split
  next h => simp [h]
  next h => simp [h]

/-- The most recent record at a proper ancestor's path is protected; the root does not count. -/
def IsSheltered (set : CategorySet) (before : List Record) (r : Record) : Prop :=
  ∃ k, k < r.depth ∧ 1 ≤ k ∧
    ∃ q ∈ latest before (r.segments.take k), set.contains q.category = true

instance (set : CategorySet) (before : List Record) (r : Record) :
    Decidable (IsSheltered set before r) :=
  inferInstanceAs (Decidable (∃ k, k < r.depth ∧ _))

end Record

namespace Ancestry

open Record

variable {rs : List Record} {a a' : Ancestry} {r : Record} {k : Nat}

def Faithful (rs : List Record) (a : Ancestry) : Prop :=
  ∀ k, k < a.length → (latest rs (a.segments.take (k + 1))).map category = a.categories[k]?

theorem faithful_nil (rs : List Record) : Faithful rs [] := by
  intro k hk
  cases hk

theorem Faithful.take (h : Faithful rs a) (n : Nat) : Faithful rs (a.take n) := by
  intro k hk
  rw [List.length_take] at hk
  rw [segments_take, categories_take, List.take_take, Nat.min_eq_left (by omega),
    List.getElem?_take_of_lt (by omega)]
  exact h k (by omega)

theorem length_of_strict (he : a.enter .strict r = (a', none)) : a'.length = r.depth := by
  rw [← length_segments, (enter_strict he).1]
  rfl

theorem take_ne_segments (hk : k + 1 < r.depth) : r.segments ≠ r.segments.take (k + 1) := by
  intro heq
  have hlen := congrArg List.length heq
  rw [List.length_take] at hlen
  unfold depth at hk
  omega

theorem enter_strict_above (he : a.enter .strict r = (a', none)) (hk : k + 1 < r.depth) :
    k < a.length ∧ r.segments.take (k + 1) = a.segments.take (k + 1) ∧
      a'.categories[k]? = a.categories[k]? := by
  rcases enter_ok_cases he with ⟨hs, -⟩ | ⟨front, last, hs, hparent, rfl⟩
  · simp [depth, hs] at hk
  · have hlt : k + 1 ≤ front.length := by
      simp only [depth, hs, List.length_append, List.length_singleton] at hk
      omega
    have htake : r.segments.take (k + 1) = a.segments.take (k + 1) := by
      have hfront := congrArg (List.take (k + 1)) (hparent rfl)
      rw [List.take_take, Nat.min_eq_left hlt] at hfront
      rw [hs, List.take_append_of_le_length hlt, hfront]
    have hlen : k < a.length := by
      have hl := congrArg List.length htake
      rw [List.length_take, List.length_take, length_segments] at hl
      unfold depth at hk
      omega
    refine ⟨hlen, htake, ?_⟩
    rw [categories_append, categories_take, List.getElem?_append_left, List.getElem?_take_of_lt hlt]
    rw [List.length_take, length_categories]
    omega

theorem enter_strict_end (he : a.enter .strict r = (a', none)) (hk : k + 1 = r.depth) :
    a'.categories[k]? = some r.category := by
  have hlen := length_of_strict he
  rcases enter_ok_cases he with ⟨hs, -⟩ | ⟨front, last, -, -, rfl⟩
  · simp [depth, hs] at hk
  · rw [List.length_append, List.length_singleton] at hlen
    obtain rfl : k = (a.take front.length).length := by omega
    simp [categories]

theorem Faithful.enter (h : Faithful rs a) (he : a.enter .strict r = (a', none)) :
    Faithful (rs ++ [r]) a' := by
  intro k hk
  rw [length_of_strict he] at hk
  rw [latest_concat, (enter_strict he).1]
  rcases Nat.lt_or_eq_of_le hk with hlt | hlast
  · obtain ⟨hlen, htake, hcat⟩ := enter_strict_above he hlt
    rw [if_neg (take_ne_segments hlt), htake, h k hlen, hcat]
  · have htake : r.segments.take (k + 1) = r.segments :=
      List.take_of_length_le (Nat.le_of_eq hlast.symm)
    rw [htake, if_pos rfl, Option.map_some, enter_strict_end he hlast]

theorem Faithful.ancestor (h : Faithful rs a) (he : a.enter .strict r = (a', none))
    (hk : k + 1 < r.depth) :
    ∃ q, latest rs (r.segments.take (k + 1)) = some q ∧ a'.categories[k]? = some q.category := by
  obtain ⟨hlen, htake, hcat⟩ := enter_strict_above he hk
  have hlt : k < a.categories.length := by
    rw [length_categories]
    exact hlen
  have hf := h k hlen
  rw [← htake, List.getElem?_eq_getElem hlt, Option.map_eq_some_iff] at hf
  obtain ⟨q, hq, hc⟩ := hf
  exact ⟨q, hq, by rw [hcat, List.getElem?_eq_getElem hlt, hc]⟩

theorem Faithful.legal_iff (h : Faithful rs a) (he : a.enter .strict r = (a', none))
    (planner : Planner) :
    planner.legal a'.categories = true ↔ ¬ IsSheltered planner.protectedSet rs r := by
  have hlen : a'.categories.length = r.depth := by
    rw [length_categories, length_of_strict he]
  rw [Planner.legal_iff]
  constructor
  · rintro hall ⟨k, hk, hk1, q, hq, hc⟩
    obtain ⟨m, rfl⟩ : ∃ m, k = m + 1 := ⟨k - 1, by omega⟩
    obtain ⟨q', hq', hcat⟩ := h.ancestor he hk
    obtain rfl := Option.some.inj (hq'.symm.trans hq)
    have hm : q'.category ∈ a'.categories.dropLast := by
      refine List.mem_of_getElem? (i := m) ?_
      rw [List.getElem?_dropLast, if_pos (by omega), hcat]
    rw [hall _ hm] at hc
    cases hc
  · intro hn c hm
    obtain ⟨k, hk⟩ := List.getElem?_of_mem hm
    rw [List.getElem?_dropLast] at hk
    split at hk
    next hlt =>
      obtain ⟨q, hq, hcat⟩ := h.ancestor he (show k + 1 < r.depth by omega)
      obtain rfl := Option.some.inj (hk.symm.trans hcat)
      cases hc : planner.protectedSet.contains q.category with
      | false => rfl
      | true => exact absurd ⟨k + 1, by omega, by omega, q, hq, hc⟩ hn
    next => cases hk

end Ancestry

end SubtreePartition
