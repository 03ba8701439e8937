import SubtreePartition.Proofs.Category.Search

namespace SubtreePartition

variable {h : Hierarchy} {seeds visited pending : List Text} {seen : Closure}
  {unvisited : List Category} {name : Text} {c : Category}

namespace Search

def members (h : Hierarchy) (visited : List Text) : List Text :=
  visited.filter fun name => (h.lookup name).isSome

def unknown (h : Hierarchy) (visited : List Text) : List Text :=
  visited.filter fun name => (h.lookup name).isNone

theorem mem_members : name ∈ members h visited ↔ name ∈ visited ∧ ∃ c, h.lookup name = some c := by
  rw [members, List.mem_filter, Option.isSome_iff_exists]

theorem mem_unknown : name ∈ unknown h visited ↔ name ∈ visited ∧ h.lookup name = none := by
  rw [unknown, List.mem_filter, Option.isNone_iff_eq_none]

theorem members_cons_of_some (hc : h.lookup name = some c) :
    members h (name :: visited) = name :: members h visited :=
  List.filter_cons_of_pos (by simp [hc])

theorem members_cons_of_none (hc : h.lookup name = none) :
    members h (name :: visited) = members h visited :=
  List.filter_cons_of_neg (by simp [hc])

theorem unknown_cons_of_some (hc : h.lookup name = some c) :
    unknown h (name :: visited) = unknown h visited :=
  List.filter_cons_of_neg (by simp [hc])

theorem unknown_cons_of_none (hc : h.lookup name = none) :
    unknown h (name :: visited) = name :: unknown h visited :=
  List.filter_cons_of_pos (by simp [hc])

end Search

namespace Closure

structure Shows (h : Hierarchy) (visited : List Text) (unvisited : List Category)
    (seen : Closure) : Prop where
  left : unvisited = h.unvisited visited
  members : seen.members = Search.members h visited
  unknown : seen.unknown = Search.unknown h visited

namespace Shows

theorem start (h : Hierarchy) : Shows h [] h.entries {} where
  left := h.unvisited_nil.symm
  members := rfl
  unknown := rfl

theorem mentions_iff (hs : Shows h visited unvisited seen) :
    seen.mentions name = true ↔ name ∈ visited := by
  rw [mentions, Bool.or_eq_true, List.contains_iff_mem, List.contains_iff_mem, hs.members,
    hs.unknown, Search.mem_members, Search.mem_unknown, ← and_or_left, and_iff_left_iff_imp]
  intro _
  cases h.lookup name with
  | none => exact .inr rfl
  | some c => exact .inl ⟨c, rfl⟩

theorem find?_eq (hs : Shows h visited unvisited seen) :
    unvisited.find? (fun c => c.name = name) = if name ∈ visited then none else h.lookup name := by
  rw [hs.left]
  exact h.find?_unvisited visited name

theorem member (hs : Shows h visited unvisited seen) (hc : h.lookup name = some c) :
    Shows h (name :: visited) (without name unvisited) (seen.addMember name) where
  left := by rw [h.unvisited_cons, ← hs.left]
  members := by rw [Search.members_cons_of_some hc, ← hs.members]; rfl
  unknown := by rw [Search.unknown_cons_of_some hc, ← hs.unknown]; rfl

theorem skip (hs : Shows h visited unvisited seen) (hc : h.lookup name = none) :
    Shows h (name :: visited) unvisited (seen.addUnknown name) where
  left := by
    rw [h.unvisited_cons, ← hs.left, without, eq_comm, List.filter_eq_self]
    intro d hd
    have hmem : d ∈ h.entries := by
      rw [hs.left] at hd
      exact (List.mem_filter.mp hd).1
    simpa using List.find?_eq_none.mp hc d hmem
  members := by rw [Search.members_cons_of_none hc, ← hs.members]; rfl
  unknown := by rw [Search.unknown_cons_of_none hc, ← hs.unknown]; rfl

theorem explore (hs : Shows h visited unvisited seen) (pending : List Text) :
    ∃ n visited' rest, Search.Walk h n ⟨visited, pending⟩ ⟨visited', []⟩ ∧
      Shows h visited' rest (Closure.explore unvisited seen pending) := by
  fun_induction Closure.explore unvisited seen pending generalizing visited with
  | case1 unvisited seen => exact ⟨0, visited, unvisited, .stay _, hs⟩
  | case2 unvisited seen name pending c hc ih =>
    rw [hs.find?_eq] at hc
    split at hc
    next => cases hc
    next hnew =>
      obtain ⟨n, visited', rest, w, hend⟩ := ih (hs.member hc)
      exact ⟨1 + n, visited', rest, (Search.step_member hnew hc).walk.trans w, hend⟩
  | case3 unvisited seen name pending hc hm ih =>
    obtain ⟨n, visited', rest, w, hend⟩ := ih hs
    exact ⟨1 + n, visited', rest, (Search.step_again (hs.mentions_iff.mp hm)).walk.trans w, hend⟩
  | case4 unvisited seen name pending hc hm ih =>
    rw [hs.mentions_iff] at hm
    rw [hs.find?_eq, if_neg hm] at hc
    obtain ⟨n, visited', rest, w, hend⟩ := ih (hs.skip hc)
    exact ⟨1 + n, visited', rest, (Search.step_unknown hm hc).walk.trans w, hend⟩

end Shows

end Closure

namespace Hierarchy

theorem exists_walk_closure (h : Hierarchy) (seeds : List Text) :
    ∃ n visited, Search.Walk h n (.start seeds) ⟨visited, []⟩ ∧
      (h.closure seeds).members = Search.members h visited ∧
      (h.closure seeds).unknown = Search.unknown h visited := by
  obtain ⟨n, visited, rest, w, hs⟩ := (Closure.Shows.start h).explore seeds
  exact ⟨n, visited, w, hs.members, hs.unknown⟩

theorem mem_members_closure (h : Hierarchy) (seeds : List Text) (name : Text) :
    name ∈ (h.closure seeds).members ↔
      h.Mentions seeds name ∧ ∃ c, h.lookup name = some c := by
  obtain ⟨n, visited, w, hm, -⟩ := h.exists_walk_closure seeds
  have hi := w.sound (Search.sound_start h seeds)
  rw [hm, Search.mem_members, hi.mem_visited_iff rfl]

end Hierarchy

end SubtreePartition
