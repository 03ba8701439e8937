import Mathlib.Data.List.Basic
import SubtreePartition.Proofs.Ancestry.Enter

namespace SubtreePartition.Ancestry

variable {α β : Type} [DecidableEq α] [DecidableEq β] {f : α → β} {a : Ancestry} {r : Record}

def follow (mode : OrderMode) (chain names : List α) : List α × Bool :=
  match names.getLast? with
  | none => ([], true)
  | some last =>
      let kept := chain.take (names.length - 1)
      if mode = .strict ∧ names.dropLast ≠ kept then (kept, false) else (kept ++ [last], true)

theorem follow_map (hf : Function.Injective f) (mode : OrderMode) (chain names : List α) :
    follow mode (chain.map f) (names.map f) =
      ((follow mode chain names).1.map f, (follow mode chain names).2) := by
  unfold follow
  rw [List.getLast?_map]
  cases names.getLast? with
  | none => rfl
  | some last =>
    have hkept : (names.map f).dropLast = (chain.map f).take ((names.map f).length - 1) ↔
        names.dropLast = chain.take (names.length - 1) := by
      rw [← List.map_dropLast, List.length_map, ← List.map_take]
      exact (List.map_injective_iff.mpr hf).eq_iff
    simp only [Option.map_some, ne_eq, hkept]
    split
    next => simp only [List.length_map, List.map_take]
    next => simp only [List.length_map, List.map_take, List.map_append, List.map_singleton]

theorem follow_segments (mode : OrderMode) (a : Ancestry) (r : Record) :
    follow mode a.segments r.segments =
      ((a.enter mode r).1.segments, (a.enter mode r).2.isNone) := by
  unfold follow enter Record.depth
  cases r.segments.getLast? with
  | none => rfl
  | some last =>
    simp only [segments_take]
    split
    next => simp only [segments_take]; rfl
    next => simp only [segments_append, segments_take]; rfl

def followAll (mode : OrderMode) : List α → List (List α) → List (List α × Bool)
  | _, [] => []
  | chain, names :: rest =>
      follow mode chain names :: followAll mode (follow mode chain names).1 rest

def enterEach (mode : OrderMode) : Ancestry → List Record → List (Ancestry × Option Unsorted)
  | _, [] => []
  | a, r :: rest => a.enter mode r :: enterEach mode (a.enter mode r).1 rest

theorem followAll_map (hf : Function.Injective f) (mode : OrderMode) (chain : List α)
    (rows : List (List α)) :
    followAll mode (chain.map f) (rows.map (List.map f)) =
      (followAll mode chain rows).map fun s => (s.1.map f, s.2) := by
  induction rows generalizing chain with
  | nil => rfl
  | cons names rest ih =>
    simp only [List.map_cons, followAll, follow_map hf]
    rw [ih]

theorem followAll_segments (mode : OrderMode) (a : Ancestry) (rs : List Record) :
    followAll mode a.segments (rs.map Record.segments) =
      (enterEach mode a rs).map fun s => (s.1.segments, s.2.isNone) := by
  induction rs generalizing a with
  | nil => rfl
  | cons r rest ih =>
    simp only [List.map_cons, followAll, enterEach, follow_segments]
    rw [ih]

end SubtreePartition.Ancestry
