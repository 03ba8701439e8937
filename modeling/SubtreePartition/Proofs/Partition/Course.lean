import SubtreePartition.Partition

namespace SubtreePartition

namespace Phase

def rotations : Nat → List Phase
  | 0 => []
  | n + 1 => .rotate :: .streaming :: rotations n

theorem count_rotate_rotations (n : Nat) : (rotations n).count .rotate = n := by
  induction n with
  | zero => rfl
  | succ n ih => simp [rotations, ih]

theorem getLast?_streaming_rotations (n : Nat) :
    (.streaming :: rotations n).getLast? = some .streaming := by
  induction n with
  | zero => rfl
  | succ n ih => simpa only [rotations, List.getLast?_cons_cons] using ih

theorem getLast?_rotations_concat (n : Nat) (phase : Phase) :
    (.init :: .streaming :: (rotations n ++ [phase])).getLast? = some phase := by
  rw [← List.cons_append, ← List.cons_append, List.getLast?_concat]

inductive IsCourse : List Phase → Prop where
  | skipped : IsCourse [.init, .skip]
  | split (n : Nat) : IsCourse (.init :: .streaming :: (rotations n ++ [.done]))

def IsCutShort (phases : List Phase) : Prop :=
  phases ≠ [] ∧ ∃ more, more ≠ [] ∧ IsCourse (phases ++ more)

theorem isCutShort_init : IsCutShort [.init] :=
  ⟨by simp, [.skip], by simp, .skipped⟩

theorem isCutShort_streaming (n : Nat) : IsCutShort (.init :: .streaming :: rotations n) :=
  ⟨by simp, [.done], by simp, .split n⟩

theorem rotations_concat (n : Nat) :
    rotations n ++ [.rotate, .streaming] = rotations (n + 1) := by
  induction n with
  | zero => rfl
  | succ n ih =>
    rw [rotations, List.cons_append, List.cons_append, ih]
    rfl

theorem isCutShort_rotate (n : Nat) :
    IsCutShort (.init :: .streaming :: (rotations n ++ [.rotate])) := by
  refine ⟨by simp, [.streaming, .done], by simp, ?_⟩
  have h := IsCourse.split (n + 1)
  rw [← rotations_concat] at h
  simpa using h

end Phase

open Phase

inductive Publication.Course (pub : Publication) : Prop where
  | written (n : Nat) (fault : pub.fault = none) (count : pub.partitions.length = n + 1)
      (phases : pub.phases = .streaming :: rotations n) : Course pub
  | unopened (fault : FileFault) (stops : pub.fault = some fault)
      (count : pub.partitions.length = 1) (phases : pub.phases = [.streaming]) : Course pub
  | uncut (n : Nat) (fault : FileFault) (stops : pub.fault = some fault)
      (count : pub.partitions.length = n + 2)
      (phases : pub.phases = .streaming :: (rotations n ++ [.rotate])) : Course pub

namespace Publication.Course

variable {pub : Publication}

theorem exists_written (h : pub.Course) (hf : pub.fault = none) :
    ∃ n, pub.partitions.length = n + 1 ∧ pub.phases = .streaming :: rotations n := by
  cases h with
  | written n fault count phases => exact ⟨n, count, phases⟩
  | unopened fault stops => exact absurd (hf.symm.trans stops) (by simp)
  | uncut n fault stops => exact absurd (hf.symm.trans stops) (by simp)

theorem ne_done (h : pub.Course) : pub.phases.getLast? ≠ some .done := by
  cases h with
  | written n fault count phases =>
    rw [phases, getLast?_streaming_rotations]
    simp
  | unopened fault stops count phases => simp [phases]
  | uncut n fault stops count phases =>
    rw [phases, ← List.cons_append, List.getLast?_concat]
    simp

end Publication.Course

namespace Target

variable {g : Target}

theorem phases_publishFrom (t : FileTree) (last : Partition) (line : Nat)
    (groups : List (List Bytes)) :
    ((g.publishFrom t last line groups).fault = none ∧
        (g.publishFrom t last line groups).phases =
          rotations (g.publishFrom t last line groups).partitions.length) ∨
      ∃ n fault, (g.publishFrom t last line groups).fault = some fault ∧
        (g.publishFrom t last line groups).partitions.length = n + 1 ∧
        (g.publishFrom t last line groups).phases = rotations n ++ [.rotate] := by
  induction groups generalizing t last line with
  | nil => exact .inl ⟨rfl, rfl⟩
  | cons lines rest ih =>
    unfold publishFrom
    split
    next fault hw => exact .inr ⟨0, fault, rfl, rfl, rfl⟩
    next mid hw =>
      rcases ih mid (g.filled (last.index + 1) lines) (line + last.records) with
        ⟨hf, hp⟩ | ⟨n, fault, hf, hn, hp⟩
      · refine .inl ⟨hf, ?_⟩
        simp only [hp, List.length_cons, rotations]
      · refine .inr ⟨n + 1, fault, hf, ?_, ?_⟩
        · simp only [hn, List.length_cons]
        · simp only [hp, rotations, List.cons_append]

theorem course_publish (t : FileTree) {groups : List (List Bytes)} (hne : groups ≠ []) :
    (g.publish t groups).Course := by
  obtain ⟨lines, rest, rfl⟩ := List.exists_cons_of_ne_nil hne
  simp only [publish]
  split
  next fault hw => exact .unopened fault rfl rfl rfl
  next mid hw =>
    rcases phases_publishFrom (g := g) mid (g.filled 1 lines) 0 rest with
      ⟨hf, hp⟩ | ⟨n, fault, hf, hn, hp⟩
    · exact .written _ hf rfl (congrArg (.streaming :: ·) hp)
    · exact .uncut n fault hf (congrArg (· + 1) hn) (congrArg (.streaming :: ·) hp)

end Target

end SubtreePartition
