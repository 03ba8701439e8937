import Mathlib.Data.List.Chain
import SubtreePartition.Proofs.Ancestry.Enter

namespace SubtreePartition

namespace Ancestry

variable {mode : OrderMode} {a : Ancestry} {r : Record} {rs : List Record}

def enterAll (mode : OrderMode) : Ancestry → List Record → Option Ancestry
  | a, [] => some a
  | a, r :: rest =>
      match a.enter mode r with
      | (a, none) => enterAll mode a rest
      | (_, some _) => none

theorem enterAll_strict_iff :
    (enterAll .strict a rs).isSome ↔
      (a.segments :: rs.map Record.segments).IsChain Attaches := by
  induction rs generalizing a with
  | nil => simp [enterAll]
  | cons r rest ih =>
    rw [List.map_cons, List.isChain_cons_cons]
    rcases he : a.enter .strict r with ⟨a', _ | fault⟩
    · obtain ⟨hsegments, hattaches⟩ := enter_strict he
      simp only [enterAll, he, ih, hsegments]
      exact (and_iff_right hattaches).symm
    · have hn : ¬ Attaches a.segments r.segments := by
        intro h
        obtain ⟨a'', ha⟩ := enter_of_attaches h
        rw [he] at ha
        cases ha
      simp [enterAll, he, hn]

end Ancestry

namespace Record

open Ancestry

variable {rs : List Record} {r q : Record} {p : List Text} {i j k m : Nat}

theorem attaches_first (h : (enterAll .strict [] rs).isSome) (hr : rs[0]? = some r) :
    r.segments.dropLast = [] := by
  rw [enterAll_strict_iff] at h
  obtain ⟨rest, rfl⟩ : ∃ rest, rs = r :: rest := by
    cases rs with
    | nil => cases hr
    | cons q rest => exact ⟨rest, by rw [Option.some.inj hr]⟩
  rw [List.map_cons, List.isChain_cons_cons] at h
  exact List.prefix_nil.mp h.1

theorem attaches_next (h : (enterAll .strict [] rs).isSome) (hq : rs[k]? = some q)
    (hr : rs[k + 1]? = some r) : Attaches q.segments r.segments := by
  rw [enterAll_strict_iff] at h
  obtain ⟨hlt, rfl⟩ := List.getElem?_eq_some_iff.mp hr
  obtain ⟨-, rfl⟩ := List.getElem?_eq_some_iff.mp hq
  have hstep := List.isChain_iff_getElem.mp h (k + 1) (by simpa using hlt)
  rw [List.getElem_cons_succ, List.getElem_cons_succ] at hstep
  simpa only [List.getElem_map] using hstep

def IsWithin (rs : List Record) (p : List Text) (n : Nat) : Prop :=
  ∃ r, rs[n]? = some r ∧ p <+: r.segments

def IsOutside (rs : List Record) (p : List Text) (n : Nat) : Prop :=
  ∃ r, rs[n]? = some r ∧ ¬ p <+: r.segments

def IsAt (rs : List Record) (p : List Text) (n : Nat) : Prop :=
  ∃ r, rs[n]? = some r ∧ r.segments = p

theorem IsOutside.not_isWithin (h : IsOutside rs p k) : ¬ IsWithin rs p k := by
  obtain ⟨r, hr, hout⟩ := h
  rintro ⟨q, hq, hin⟩
  obtain rfl := Option.some.inj (hr.symm.trans hq)
  exact hout hin

structure RunsFromRoot (rs : List Record) (p : List Text) (m k : Nat) : Prop where
  le : m ≤ k
  root : IsAt rs p m
  within : ∀ n, m ≤ n → n ≤ k → IsWithin rs p n

theorem runsFromRoot_self (h : IsAt rs p k) : RunsFromRoot rs p k k := by
  refine ⟨Nat.le_refl k, h, ?_⟩
  intro n hkn hnk
  obtain rfl : n = k := by omega
  obtain ⟨r, hr, hs⟩ := h
  exact ⟨r, hr, hs ▸ List.prefix_refl _⟩

theorem RunsFromRoot.next (h : RunsFromRoot rs p m k) (hin : IsWithin rs p (k + 1)) :
    RunsFromRoot rs p m (k + 1) := by
  refine ⟨Nat.le_succ_of_le h.le, h.root, ?_⟩
  intro n hmn hn
  rcases Nat.lt_or_ge k n with hkn | hnk
  · obtain rfl : n = k + 1 := by omega
    exact hin
  · exact h.within n hmn hnk

theorem RunsFromRoot.lt_of_isOutside (h : RunsFromRoot rs p m k) (hj : IsOutside rs p j)
    (hjk : j < k) : j < m := by
  by_contra hn
  exact hj.not_isWithin (h.within j (by omega) (by omega))

theorem isWithin_before (h : (enterAll .strict [] rs).isSome) (hr : rs[k + 1]? = some r)
    (hin : p <+: r.segments) (hs : r.segments ≠ p) : IsWithin rs p k := by
  have hlt : k < rs.length := by
    obtain ⟨hlt, -⟩ := List.getElem?_eq_some_iff.mp hr
    omega
  have hq := List.getElem?_eq_getElem hlt
  have hparent := isPrefix_dropLast hin (Ne.symm hs)
  exact ⟨_, hq, hparent.trans (attaches_next h hq hr)⟩

theorem exists_runsFromRoot (h : (enterAll .strict [] rs).isSome) (hp : p ≠ [])
    (hk : IsWithin rs p k) : ∃ m, RunsFromRoot rs p m k := by
  -- A record that is not at the root of the subtree hangs on the one before it.
  induction k with
  | zero =>
    obtain ⟨r, hr, hin⟩ := hk
    have hs : r.segments = p := by
      by_contra hne
      have hparent := isPrefix_dropLast hin (Ne.symm hne)
      rw [attaches_first h hr, List.prefix_nil] at hparent
      exact hp hparent
    exact ⟨0, runsFromRoot_self ⟨r, hr, hs⟩⟩
  | succ k ih =>
    obtain ⟨r, hr, hin⟩ := hk
    by_cases hs : r.segments = p
    · exact ⟨k + 1, runsFromRoot_self ⟨r, hr, hs⟩⟩
    · obtain ⟨m, hm⟩ := ih (isWithin_before h hr hin hs)
      exact ⟨m, hm.next ⟨r, hr, hin⟩⟩

def EntersOnce (rs : List Record) (p : List Text) : Prop :=
  ∀ i j k, i < j → j < k → IsWithin rs p i → IsOutside rs p j → ¬ IsWithin rs p k

/-- The subtree at a path is entered by its root alone, also when it is entered again. -/
structure EntersByRoot (rs : List Record) (p : List Text) : Prop where
  runs : ∀ k, IsWithin rs p k → ∃ m, RunsFromRoot rs p m k
  again : ∀ i j k, i < j → j < k → IsWithin rs p i → IsOutside rs p j → IsWithin rs p k →
    ∃ m m', m ≤ i ∧ j < m' ∧ m' ≤ k ∧ IsAt rs p m ∧ IsAt rs p m'
  once : (∀ m m', IsAt rs p m → IsAt rs p m' → m = m') → EntersOnce rs p

theorem entersByRoot_of_accepted (h : (enterAll .strict [] rs).isSome) (hp : p ≠ []) :
    EntersByRoot rs p := by
  have hagain : ∀ i j k, i < j → j < k → IsWithin rs p i → IsOutside rs p j → IsWithin rs p k →
      ∃ m m', m ≤ i ∧ j < m' ∧ m' ≤ k ∧ IsAt rs p m ∧ IsAt rs p m' := by
    intro i j k hij hjk hi hj hk
    obtain ⟨m, hm⟩ := exists_runsFromRoot h hp hi
    obtain ⟨m', hm'⟩ := exists_runsFromRoot h hp hk
    exact ⟨m, m', hm.le, hm'.lt_of_isOutside hj hjk, hm'.le, hm.root, hm'.root⟩
  refine ⟨fun k hk => exists_runsFromRoot h hp hk, hagain, ?_⟩
  intro hone i j k hij hjk hi hj hk
  obtain ⟨m, m', hmi, hjm, -, hm, hm'⟩ := hagain i j k hij hjk hi hj hk
  have hsame : m = m' := hone m m' hm hm'
  omega

def repeatedRecords : List Record :=
  [⟨"/a", "A"⟩, ⟨"/b", "B"⟩, ⟨"/a", "A"⟩]

theorem entersByRoot_repeated :
    (enterAll .strict [] repeatedRecords).isSome ∧ EntersByRoot repeatedRecords ["a"] := by
  have h : (enterAll .strict [] repeatedRecords).isSome := by decide +kernel
  exact ⟨h, entersByRoot_of_accepted h (by simp)⟩

theorem not_entersOnce_repeated :
    (enterAll .strict [] repeatedRecords).isSome ∧ ¬ EntersOnce repeatedRecords ["a"] := by
  refine ⟨by decide +kernel, ?_⟩
  intro h
  have hin : (["a"] : List Text) <+: segments ⟨"/a", "A"⟩ := by decide +kernel
  have hout : ¬ (["a"] : List Text) <+: segments ⟨"/b", "B"⟩ := by decide +kernel
  exact h 0 1 2 (by omega) (by omega) ⟨_, rfl, hin⟩ ⟨_, rfl, hout⟩ ⟨_, rfl, hin⟩

end Record

end SubtreePartition
