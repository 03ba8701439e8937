import SubtreePartition.Text.LineEnd

namespace SubtreePartition.Text

def endsInReturn (afterReturn : Bool) (t : Text) : Bool :=
  t.foldl (fun _ c => decide (c = carriageReturn)) afterReturn

theorem unifyLineEndsFrom_append (afterReturn : Bool) (s t : Text) :
    unifyLineEndsFrom [] afterReturn (s ++ t) =
      unifyLineEndsFrom [] afterReturn s ++
        unifyLineEndsFrom [] (endsInReturn afterReturn s) t := by
  induction s generalizing afterReturn with
  | nil => rfl
  | cons c s ih =>
    have hend : endsInReturn afterReturn (c :: s) =
        endsInReturn (decide (c = carriageReturn)) s := rfl
    rw [hend, List.cons_append, unifyLineEndsFrom, unifyLineEndsFrom]
    by_cases hc : c = carriageReturn
    · rw [if_pos hc, if_pos hc, unifyLineEndsFrom_eq_append, ih,
        unifyLineEndsFrom_eq_append [lineFeed] true s]
      simp [hc]
    · rw [if_neg hc, if_neg hc]
      split
      · rw [ih]
        simp [hc]
      · rw [unifyLineEndsFrom_eq_append, ih, unifyLineEndsFrom_eq_append [c] false s]
        simp [hc]

theorem unifyLineEnds_append_return (s t : Text) :
    unifyLineEnds (s ++ carriageReturn :: t) =
      unifyLineEnds s ++ unifyLineEnds (carriageReturn :: t) := by
  have hreturn : ∀ b, unifyLineEndsFrom [] b (carriageReturn :: t) =
      unifyLineEnds (carriageReturn :: t) := by
    intro b
    rw [unifyLineEnds, unifyLineEndsFrom, unifyLineEndsFrom, if_pos rfl, if_pos rfl]
  rw [unifyLineEnds, unifyLineEndsFrom_append, hreturn]
  rfl

theorem unifyLineEnds_append {s : Text} (h : s.getLast? ≠ some carriageReturn) (t : Text) :
    unifyLineEnds (s ++ t) = unifyLineEnds s ++ unifyLineEnds t := by
  have hend : endsInReturn false s = false := by
    rcases List.eq_nil_or_concat s with rfl | ⟨front, c, rfl⟩
    · rfl
    · simpa [endsInReturn] using h
  rw [unifyLineEnds, unifyLineEndsFrom_append, hend]
  rfl

theorem length_unifyLineEndsFrom_le (afterReturn : Bool) (t : Text) :
    (unifyLineEndsFrom [] afterReturn t).length ≤ t.length := by
  induction t generalizing afterReturn with
  | nil => simp [unifyLineEndsFrom]
  | cons c t ih =>
    rw [unifyLineEndsFrom]
    split
    · rw [unifyLineEndsFrom_eq_append]
      have := ih true
      simp only [List.length_append, List.length_reverse, List.length_cons, List.length_nil]
      omega
    · split
      · have := ih false
        rw [List.length_cons]
        omega
      · rw [unifyLineEndsFrom_eq_append]
        have := ih false
        simp only [List.length_append, List.length_reverse, List.length_cons, List.length_nil]
        omega

end SubtreePartition.Text
