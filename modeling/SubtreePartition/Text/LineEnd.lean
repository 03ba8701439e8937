import SubtreePartition.Text.Basic

namespace SubtreePartition.Text

def unifyLineEndsFrom (done : Text) (afterReturn : Bool) : Text → Text
  | [] => done.reverse
  | c :: rest =>
      if c = carriageReturn then unifyLineEndsFrom (lineFeed :: done) true rest
      else if c = lineFeed ∧ afterReturn then unifyLineEndsFrom done false rest
      else unifyLineEndsFrom (c :: done) false rest

def unifyLineEnds (t : Text) : Text :=
  unifyLineEndsFrom [] false t

theorem unifyLineEndsFrom_eq_append (done : Text) (afterReturn : Bool) (t : Text) :
    unifyLineEndsFrom done afterReturn t = done.reverse ++ unifyLineEndsFrom [] afterReturn t := by
  induction t generalizing done afterReturn with
  | nil => simp [unifyLineEndsFrom]
  | cons c rest ih =>
      simp only [unifyLineEndsFrom]
      split
      · rw [ih, ih [lineFeed]]
        simp
      · split
        · exact ih done false
        · rw [ih, ih [c]]
          simp

end SubtreePartition.Text
