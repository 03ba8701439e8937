import SubtreePartition.Text.Basic

namespace SubtreePartition.Json

def nestingFrom : Bool → Nat → Text → Nat
  | _, depth, [] => depth
  | true, depth, 92 :: _ :: rest => nestingFrom true depth rest
  | true, depth, c :: rest => nestingFrom (c ≠ 34) depth rest
  | false, depth, c :: rest =>
      if c = 34 then nestingFrom true depth rest
      else if c = 91 ∨ c = 123 then nestingFrom false (depth + 1) rest
      else if c = 93 ∨ c = 125 then max depth (nestingFrom false (depth - 1) rest)
      else nestingFrom false depth rest

def nesting (t : Text) : Nat :=
  nestingFrom false 0 t

/-- Nothing is said of deeper nesting, which a reader may give up on. -/
def deepest : Nat := 200

theorem nestingFrom_of_plain {t : Text} (h : ∀ c ∈ t, c ∉ [34, 91, 93, 123, 125]) (depth : Nat) :
    nestingFrom false depth t = depth := by
  induction t with
  | nil => rfl
  | cons c t ih =>
    obtain ⟨hc, ht⟩ := List.forall_mem_cons.mp h
    simp only [List.mem_cons, List.not_mem_nil, or_false, not_or] at hc
    obtain ⟨h34, h91, h93, h123, h125⟩ := hc
    simp only [nestingFrom, h34, h91, h93, h123, h125, or_self, if_false]
    exact ih ht

end SubtreePartition.Json
