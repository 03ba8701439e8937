import SubtreePartition.Text.Basic

namespace SubtreePartition

abbrev Location := List Text

inductive Node where
  | directory
  | file (content : Bytes)
  deriving DecidableEq, Repr

/-- Files and directories by location, with the directory that relative paths start from. The top
directory is always there and is not listed. -/
structure FileTree where
  nodes : List (Location × Node) := []
  current : Location := []
  deriving DecidableEq, Repr

namespace FileTree

def find? (t : FileTree) (l : Location) : Option Node :=
  if l = [] then some .directory else t.nodes.lookup l

def assign (l : Location) (n : Node) : List (Location × Node) → List (Location × Node)
  | [] => [(l, n)]
  | m :: rest => if m.1 = l then (l, n) :: rest else m :: assign l n rest

def put (t : FileTree) (l : Location) (n : Node) : FileTree :=
  { t with nodes := assign l n t.nodes }

def erase (t : FileTree) (l : Location) : FileTree :=
  { t with nodes := t.nodes.filter fun n => n.1 ≠ l }

theorem lookup_cons_eq (m : Location) (a : Location × Node) (nodes : List (Location × Node)) :
    (a :: nodes).lookup m = if m = a.1 then some a.2 else nodes.lookup m := by
  obtain ⟨k, n⟩ := a
  rw [List.lookup_cons]
  by_cases h : m = k
  · simp [h]
  · simp [h, beq_eq_false_iff_ne.mpr h]

theorem lookup_assign (l m : Location) (n : Node) (nodes : List (Location × Node)) :
    (assign l n nodes).lookup m = if m = l then some n else nodes.lookup m := by
  induction nodes with
  | nil => simp [assign, lookup_cons_eq]
  | cons a rest ih =>
      unfold assign
      by_cases h : a.1 = l
      · rw [if_pos h, lookup_cons_eq, lookup_cons_eq, h]
        by_cases hm : m = l <;> simp [hm]
      · rw [if_neg h, lookup_cons_eq, lookup_cons_eq, ih]
        by_cases hm : m = a.1
        · simp [hm, h]
        · simp [hm]

theorem lookup_filter_ne (l m : Location) (nodes : List (Location × Node)) :
    (nodes.filter fun n => n.1 ≠ l).lookup m = if m = l then none else nodes.lookup m := by
  induction nodes with
  | nil => simp
  | cons a rest ih =>
      by_cases h : a.1 = l
      · rw [List.filter_cons_of_neg (by simpa using h), ih, lookup_cons_eq, h]
        by_cases hm : m = l <;> simp [hm]
      · rw [List.filter_cons_of_pos (by simpa using h), lookup_cons_eq, lookup_cons_eq, ih]
        by_cases hm : m = a.1
        · simp [hm, h]
        · simp [hm]

theorem find?_put {l m : Location} (h : l ≠ []) (t : FileTree) (n : Node) :
    (t.put l n).find? m = if l = m then some n else t.find? m := by
  unfold find? put
  by_cases hm : m = []
  · simp [hm, h]
  · simp [hm, lookup_assign, eq_comm]

theorem find?_erase {l m : Location} (h : l ≠ []) (t : FileTree) :
    (t.erase l).find? m = if l = m then none else t.find? m := by
  unfold find? erase
  by_cases hm : m = []
  · simp [hm, h]
  · simp only [hm, if_false]
    rw [lookup_filter_ne]
    simp [eq_comm]

end FileTree

end SubtreePartition
