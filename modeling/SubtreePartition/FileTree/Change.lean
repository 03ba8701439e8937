import SubtreePartition.FileTree.Basic

namespace SubtreePartition

inductive Change where
  | makeDirectory (place : Location)
  | writeFile (place : Location) (content : Bytes)
  | removeFile (place : Location)
  deriving DecidableEq, Repr

namespace Change

def place : Change → Location
  | .makeDirectory l | .writeFile l _ | .removeFile l => l

def toward (l : Location) : Node → Change
  | .directory => .makeDirectory l
  | .file content => .writeFile l content

theorem place_toward (l : Location) (n : Node) : (toward l n).place = l := by
  cases n <;> rfl

end Change

namespace FileTree

def removals (before after : FileTree) : List Change :=
  before.nodes.filterMap fun n =>
    if after.find? n.1 = none then some (.removeFile n.1) else none

def additions (before after : FileTree) : List Change :=
  after.nodes.filterMap fun n =>
    if before.find? n.1 = some n.2 then none else some (.toward n.1 n.2)

def changes (before after : FileTree) : List Change :=
  removals before after ++ additions before after

theorem lookup_mem {l : Location} {n : Node} {nodes : List (Location × Node)}
    (h : nodes.lookup l = some n) : (l, n) ∈ nodes := by
  obtain ⟨front, back, rfl, -⟩ := List.lookup_eq_some_iff.mp h
  simp

theorem find?_eq_of_unchanged {before after : FileTree} {l : Location}
    (h : ∀ c ∈ before.changes after, c.place ≠ l) : after.find? l = before.find? l := by
  by_cases hl : l = []
  · simp [find?, hl]
  · cases ha : after.find? l with
    | none =>
        cases hb : before.find? l with
        | none => rfl
        | some n =>
            have hm : (l, n) ∈ before.nodes := lookup_mem (by simpa [find?, hl] using hb)
            refine absurd rfl (h (.removeFile l) ?_)
            exact List.mem_append_left _ (List.mem_filterMap.2 ⟨_, hm, by simp [ha]⟩)
    | some n =>
        by_cases hb : before.find? l = some n
        · exact hb.symm
        · have hm : (l, n) ∈ after.nodes := lookup_mem (by simpa [find?, hl] using ha)
          refine absurd (Change.place_toward l n) (h (.toward l n) ?_)
          exact List.mem_append_right _ (List.mem_filterMap.2 ⟨_, hm, by simp [hb]⟩)

end FileTree

end SubtreePartition
