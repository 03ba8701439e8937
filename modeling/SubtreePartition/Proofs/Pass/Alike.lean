import Mathlib.Data.List.Forall2
import SubtreePartition.Proofs.Ancestry.Enter
import SubtreePartition.Proofs.Pass.Dealing
import SubtreePartition.Proofs.Pass.Visits

namespace SubtreePartition

namespace Ancestry

variable {mode : OrderMode} {a a' : Ancestry} {r : Record}

def marks (set : CategorySet) (a : Ancestry) : List Bool :=
  a.categories.map set.contains

theorem marks_take_concat (set : CategorySet) (a : Ancestry) (n : Nat) (e : Ancestor) :
    marks set (a.take n ++ [e]) = (marks set a).take n ++ [set.contains e.category] := by
  simp [marks, categories, List.map_take]

theorem marks_enter (set : CategorySet) (h : a.enter mode r = (a', none)) :
    marks set a' =
      if r.depth = 0 then []
      else (marks set a).take (r.depth - 1) ++ [set.contains r.category] := by
  rcases enter_ok_cases h with ⟨hs, rfl⟩ | ⟨front, last, hs, -, rfl⟩
  · have hd : r.depth = 0 := by simp [Record.depth, hs]
    rw [if_pos hd]
    rfl
  · have hd : r.depth = front.length + 1 := by simp [Record.depth, hs]
    rw [if_neg (by omega), marks_take_concat, hd, Nat.add_sub_cancel]

end Ancestry

theorem Planner.legal_eq_marks (p : Planner) (a : Ancestry) :
    p.legal a.categories = !(Ancestry.marks p.protectedSet a).dropLast.any id := by
  rw [legal, Ancestry.marks, ← List.map_dropLast, List.any_map]
  rfl

structure Item.Alike (p q : Planner) (i j : Item) : Prop where
  length : i.raw.length = j.raw.length
  legal : p.legal i.ancestors = q.legal j.ancestors

namespace Pass

variable {p p' : Pass} {a a' : Ancestry} {lines lines' : List Bytes}

/-- Two lines of the same length with records at the same depth, both protected or both not. -/
structure Alike (p p' : Pass) (raw raw' : Bytes) : Prop where
  length : raw.length = raw'.length
  depth : ∀ r r', Record.ofRaw p.field raw = .ok r → Record.ofRaw p'.field raw' = .ok r' →
    r.depth = r'.depth
  isProtected : ∀ r r', Record.ofRaw p.field raw = .ok r → Record.ofRaw p'.field raw' = .ok r' →
    p.planner.protectedSet.contains r.category = p'.planner.protectedSet.contains r'.category

theorem Alike.marks {raw raw' : Bytes} {r r' : Record} {b b' : Ancestry}
    (h : Alike p p' raw raw') (hr : Record.ofRaw p.field raw = .ok r)
    (hr' : Record.ofRaw p'.field raw' = .ok r')
    (ha : Ancestry.marks p.planner.protectedSet a = Ancestry.marks p'.planner.protectedSet a')
    (he : a.enter p.mode r = (b, none)) (he' : a'.enter p'.mode r' = (b', none)) :
    Ancestry.marks p.planner.protectedSet b = Ancestry.marks p'.planner.protectedSet b' := by
  rw [Ancestry.marks_enter _ he, Ancestry.marks_enter _ he', h.depth r r' hr hr',
    h.isProtected r r' hr hr', ha]

theorem alike_acceptFrom (hl : List.Forall₂ (Alike p p') lines lines')
    (ha : Ancestry.marks p.planner.protectedSet a = Ancestry.marks p'.planner.protectedSet a')
    (h : (p.acceptFrom [] a lines).2 = none) (h' : (p'.acceptFrom [] a' lines').2 = none) :
    List.Forall₂ (Item.Alike p.planner p'.planner) (p.acceptFrom [] a lines).1
      (p'.acceptFrom [] a' lines').1 := by
  -- The names on the two chains have nothing in common; their marks are what both keep.
  induction hl generalizing a a' with
  | nil => exact .nil
  | @cons raw raw' rest rest' hraw hrest ih =>
    rcases p.acceptFrom_cases a raw rest with ⟨-, rejection, hacc⟩ | ⟨r, b, hr, he, -, hacc⟩
    · rw [hacc] at h
      cases h
    rcases p'.acceptFrom_cases a' raw' rest' with
      ⟨-, rejection, hacc'⟩ | ⟨r', b', hr', he', -, hacc'⟩
    · rw [hacc'] at h'
      cases h'
    rw [hacc] at h ⊢
    rw [hacc'] at h' ⊢
    have hmarks := hraw.marks hr hr' ha he he'
    refine .cons ⟨hraw.length, ?_⟩ (ih hmarks h h')
    simp only [Visit.item, Planner.legal_eq_marks, hmarks]

theorem alike_acceptAll (hl : List.Forall₂ (Alike p p') lines lines')
    (h : (p.acceptAll lines).2 = none) (h' : (p'.acceptAll lines').2 = none) :
    List.Forall₂ (Item.Alike p.planner p'.planner) (p.acceptAll lines).1
      (p'.acceptAll lines').1 :=
  alike_acceptFrom hl rfl h h'

def shape (groups : List (List Bytes)) : List (List Nat) :=
  groups.map (List.map List.length)

namespace Dealing

variable {q q' : Planner} {s s' : Dealing} {items items' : List Item}

structure Alike (s s' : Dealing) : Prop where
  closed : shape s.closed = shape s'.closed
  lines : s.draft.lines.map List.length = s'.draft.lines.map List.length
  index : s.draft.index = s'.draft.index
  size : s.draft.size = s'.draft.size

theorem Alike.step {i j : Item} (h : s.Alike s') (hij : Item.Alike q q' i j)
    (ht : q.threshold = q'.threshold) (hm : q.maxPartitions = q'.maxPartitions) :
    (s.step q i).Alike (s'.step q' j) := by
  have hcut : q.cut s.draft.size s.draft.index i.ancestors =
      q'.cut s'.draft.size s'.draft.index j.ancestors := by
    simp only [Planner.cut, Planner.due, ht, hm, h.index, h.size, hij.legal]
  have hlines : s.draft.lines.reverse.map List.length = s'.draft.lines.reverse.map List.length := by
    rw [List.map_reverse, List.map_reverse, h.lines]
  unfold Dealing.step
  rw [hcut]
  split
  · refine ⟨?_, by simp [Draft.start, hij.length], by simp [Draft.start, h.index], hij.length⟩
    exact congrArg₂ List.cons hlines h.closed
  · exact ⟨h.closed, congrArg₂ List.cons hij.length h.lines, h.index,
      congrArg₂ (· + ·) h.size hij.length⟩

theorem Alike.shape_groups (h : s.Alike s') : shape s.groups = shape s'.groups := by
  have hclosed := h.closed
  unfold shape at hclosed ⊢
  simp only [groups, List.map_reverse, List.map_cons, hclosed, h.lines]

theorem Alike.foldl (h : s.Alike s') (hi : List.Forall₂ (Item.Alike q q') items items')
    (ht : q.threshold = q'.threshold) (hm : q.maxPartitions = q'.maxPartitions) :
    (items.foldl (Dealing.step q) s).Alike (items'.foldl (Dealing.step q') s') := by
  induction hi generalizing s s' with
  | nil => exact h
  | cons hij _ ih => exact ih (h.step hij ht hm)

end Dealing

theorem shape_deal {q q' : Planner} {items items' : List Item}
    (hi : List.Forall₂ (Item.Alike q q') items items') (ht : q.threshold = q'.threshold)
    (hm : q.maxPartitions = q'.maxPartitions) : shape (deal q items) = shape (deal q' items') := by
  have hstart : Dealing.start.Alike Dealing.start := ⟨rfl, rfl, rfl, rfl⟩
  rw [Dealing.deal_eq, Dealing.deal_eq]
  exact (hstart.foldl hi ht hm).shape_groups

end Pass

end SubtreePartition
