import Mathlib.Data.List.Induction
import SubtreePartition.Proofs.Text.Basic
import SubtreePartition.Record.Line

namespace SubtreePartition.Record

open Text

variable {line path name : Text} {names : List Text}

def IsName (name : Text) : Prop :=
  name ≠ [] ∧ slash ∉ name

theorem isName_of_mem (h : name ∈ segmentsOf path) : IsName name := by
  rw [segmentsOf, List.mem_filter] at h
  exact ⟨by simpa using h.2, not_mem_of_mem_pieces h.1⟩

theorem segmentsOf_name (h : IsName name) : segmentsOf name = [name] := by
  simp [segmentsOf, pieces_of_not_mem h.2, h.1]

theorem segmentsOf_append (front back : Text) :
    segmentsOf (front ++ slash :: back) = segmentsOf front ++ segmentsOf back := by
  simp [segmentsOf, pieces_append_separator]

theorem segmentsOf_flatMap (h : ∀ name ∈ names, IsName name) :
    segmentsOf (names.flatMap (slash :: ·)) = names := by
  induction names using List.reverseRecOn with
  | nil => rfl
  | append_singleton names name ih =>
    have hfront := ih fun n hn => h n (List.mem_append_left _ hn)
    have hname := segmentsOf_name (h name (by simp))
    simp only [List.flatMap_append, List.flatMap_singleton, segmentsOf_append, hfront, hname]

theorem slash_intercalate (h : names ≠ []) :
    slash :: intercalate [slash] names = names.flatMap (slash :: ·) := by
  cases names with
  | nil => exact absurd rfl h
  | cons name rest => rfl

theorem segmentsOf_slash_intercalate (h : ∀ name ∈ names, IsName name) :
    segmentsOf (slash :: intercalate [slash] names) = names := by
  by_cases hn : names = []
  · subst hn
    rfl
  · rw [slash_intercalate hn, segmentsOf_flatMap h]

theorem splitLine_append_cons (h : separator ∉ path) (payload : Text) :
    splitLine (path ++ separator :: payload) =
      if path.head? = some slash then .ok (path, payload)
      else .error (.malformed (path ++ separator :: payload) .relativePath) := by
  rw [splitLine, cutAt_append_cons h]

theorem splitLine_of_not_mem (h : separator ∉ line) :
    splitLine line = .error (.malformed line .noSeparator) := by
  rw [splitLine, cutAt_of_not_mem h]

end SubtreePartition.Record
