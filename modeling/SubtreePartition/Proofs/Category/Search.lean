import Mathlib.Algebra.GroupWithZero.Nat
import Mathlib.Data.List.Perm.Subperm
import SubtreePartition.Category.Closure

namespace SubtreePartition

variable {h : Hierarchy} {seeds visited : List Text} {name : Text} {c : Category}

namespace Hierarchy

inductive Mentions (h : Hierarchy) (seeds : List Text) : Text → Prop where
  | seed {name : Text} : name ∈ seeds → Mentions h seeds name
  | subtype {top name : Text} {c : Category} :
      Mentions h seeds top → h.lookup top = some c → name ∈ c.subtypes → Mentions h seeds name

def listings (cs : List Category) : Nat :=
  (cs.map fun c => c.subtypes.length).sum

theorem listings_cons (c : Category) (cs : List Category) :
    listings (c :: cs) = c.subtypes.length + listings cs := rfl

theorem listings_without_le (name : Text) (cs : List Category) :
    listings (Closure.without name cs) ≤ listings cs := by
  induction cs with
  | nil => exact Nat.le_refl _
  | cons d rest ih =>
    rw [listings_cons]
    by_cases hd : d.name = name
    · rw [Closure.without, List.filter_cons_of_neg (by simpa using hd)]
      exact Nat.le_trans ih (Nat.le_add_left _ _)
    · rw [Closure.without, List.filter_cons_of_pos (by simpa using hd), listings_cons]
      exact Nat.add_le_add_left ih _

theorem listings_without_add_le {cs : List Category}
    (hc : cs.find? (fun d => d.name = name) = some c) :
    listings (Closure.without name cs) + c.subtypes.length ≤ listings cs := by
  induction cs with
  | nil => cases hc
  | cons d rest ih =>
    rw [listings_cons]
    by_cases hd : d.name = name
    · obtain rfl : d = c := by simpa [hd] using hc
      rw [Closure.without, List.filter_cons_of_neg (by simpa using hd)]
      have hle := listings_without_le name rest
      rw [Closure.without] at hle
      omega
    · have hrest := ih (by simpa [hd] using hc)
      rw [Closure.without, List.filter_cons_of_pos (by simpa using hd), listings_cons]
      rw [Closure.without] at hrest
      omega

def unvisited (h : Hierarchy) (visited : List Text) : List Category :=
  h.entries.filter fun c => c.name ∉ visited

theorem unvisited_nil (h : Hierarchy) : h.unvisited [] = h.entries :=
  List.filter_eq_self.mpr (by simp)

theorem unvisited_cons (h : Hierarchy) (name : Text) (visited : List Text) :
    h.unvisited (name :: visited) = Closure.without name (h.unvisited visited) := by
  rw [unvisited, unvisited, Closure.without, List.filter_filter]
  congr 1
  funext c
  simp

theorem find?_unvisited (h : Hierarchy) (visited : List Text) (name : Text) :
    (h.unvisited visited).find? (fun c => c.name = name) =
      if name ∈ visited then none else h.lookup name := by
  rw [unvisited, List.find?_filter]
  split
  next hm =>
    refine List.find?_eq_none.mpr fun c _ hc => ?_
    simp only [decide_eq_true_eq] at hc
    exact hc.1 (hc.2 ▸ hm)
  next hm =>
    rw [lookup]
    congr 1
    funext c
    by_cases hc : c.name = name
    · simp [hc, hm]
    · simp [hc]

end Hierarchy

structure Search where
  visited : List Text
  pending : List Text

namespace Search

variable {s s' mid : Search} {n : Nat}

def start (seeds : List Text) : Search :=
  ⟨[], seeds⟩

/-- The visit of a pending name, whichever it is. Of its subtypes those that have been looked up
need not be put with the others. -/
inductive Step (h : Hierarchy) : Search → Search → Prop where
  | again {visited before after : List Text} {name : Text} (seen : name ∈ visited) :
      Step h ⟨visited, before ++ name :: after⟩ ⟨visited, before ++ after⟩
  | unknown {visited before after : List Text} {name : Text} (new : name ∉ visited)
      (absent : h.lookup name = none) :
      Step h ⟨visited, before ++ name :: after⟩ ⟨name :: visited, before ++ after⟩
  | member {visited before after added pending : List Text} {name : Text} {c : Category}
      (new : name ∉ visited) (found : h.lookup name = some c) (among : added.Subperm c.subtypes)
      (kept : ∀ m ∈ c.subtypes, m ∉ name :: visited → m ∈ added)
      (placed : pending.Perm (added ++ (before ++ after))) :
      Step h ⟨visited, before ++ name :: after⟩ ⟨name :: visited, pending⟩

inductive Walk (h : Hierarchy) : Nat → Search → Search → Prop where
  | stay (s : Search) : Walk h 0 s s
  | step {n : Nat} {s mid s' : Search} : Walk h n s mid → Step h mid s' → Walk h (n + 1) s s'

theorem Step.walk (hs : Step h s s') : Walk h 1 s s' :=
  .step (.stay s) hs

theorem Walk.trans {m : Nat} (w : Walk h m s mid) (w' : Walk h n mid s') :
    Walk h (m + n) s s' := by
  induction w' with
  | stay s => exact w
  | step _ hs ih => exact .step (ih w) hs

section First

variable {rest : List Text}

theorem step_again (seen : name ∈ visited) : Step h ⟨visited, name :: rest⟩ ⟨visited, rest⟩ :=
  show Step h ⟨visited, [] ++ name :: rest⟩ _ from .again seen

theorem step_unknown (new : name ∉ visited) (absent : h.lookup name = none) :
    Step h ⟨visited, name :: rest⟩ ⟨name :: visited, rest⟩ :=
  show Step h ⟨visited, [] ++ name :: rest⟩ _ from .unknown new absent

theorem step_member (new : name ∉ visited) (found : h.lookup name = some c) :
    Step h ⟨visited, name :: rest⟩ ⟨name :: visited, c.subtypes ++ rest⟩ :=
  show Step h ⟨visited, [] ++ name :: rest⟩ _ from
    .member new found (.refl c.subtypes) (fun _ hm _ => hm) (.refl _)

end First

theorem exists_step (hp : s.pending ≠ []) : ∃ s', Step h s s' := by
  obtain ⟨visited, pending⟩ := s
  obtain ⟨name, rest, rfl⟩ := List.exists_cons_of_ne_nil hp
  by_cases hv : name ∈ visited
  · exact ⟨_, step_again hv⟩
  · cases hl : h.lookup name with
    | none => exact ⟨_, step_unknown hv hl⟩
    | some c => exact ⟨_, step_member hv hl⟩

def weight (h : Hierarchy) (s : Search) : Nat :=
  s.pending.length + Hierarchy.listings (h.unvisited s.visited)

theorem Step.weight_lt (hs : Step h s s') : s'.weight h < s.weight h := by
  cases hs with
  | again seen => simp [weight]
  | @unknown visited before after name new absent =>
    have hle := Hierarchy.listings_without_le name (h.unvisited visited)
    simp only [weight, Hierarchy.unvisited_cons, List.length_append, List.length_cons]
    omega
  | @member visited before after added pending name c new found among kept placed =>
    have hc : (h.unvisited visited).find? (fun d => d.name = name) = some c := by
      rw [Hierarchy.find?_unvisited, if_neg new, found]
    have hle := Hierarchy.listings_without_add_le hc
    have hadded := among.length_le
    have hplaced := placed.length_eq
    simp only [weight, Hierarchy.unvisited_cons, List.length_append, List.length_cons] at hplaced ⊢
    omega

theorem Walk.weight_le (w : Walk h n s s') : n + s'.weight h ≤ s.weight h := by
  induction w with
  | stay s => omega
  | step _ hs ih =>
    have := hs.weight_lt
    omega

theorem Walk.le_listings (w : Walk h n (start seeds) s) :
    n ≤ seeds.length + Hierarchy.listings h.entries := by
  have hle := w.weight_le
  simp only [weight, start, Hierarchy.unvisited_nil] at hle
  omega

def Covers (s : Search) (name : Text) : Prop :=
  name ∈ s.visited ∨ name ∈ s.pending

theorem Step.covers (hs : Step h s s') (hn : s.Covers name) : s'.Covers name := by
  cases hs with
  | again seen =>
    simp only [Covers, List.mem_append, List.mem_cons] at hn ⊢
    rcases hn with hn | hn | rfl | hn
    · exact .inl hn
    · exact .inr (.inl hn)
    · exact .inl seen
    · exact .inr (.inr hn)
  | unknown new absent =>
    simp only [Covers, List.mem_append, List.mem_cons] at hn ⊢
    rcases hn with hn | hn | rfl | hn
    · exact .inl (.inr hn)
    · exact .inr (.inl hn)
    · exact .inl (.inl rfl)
    · exact .inr (.inr hn)
  | member new found among kept placed =>
    simp only [Covers, placed.mem_iff, List.mem_append, List.mem_cons] at hn ⊢
    rcases hn with hn | hn | rfl | hn
    · exact .inl (.inr hn)
    · exact .inr (.inr (.inl hn))
    · exact .inl (.inl rfl)
    · exact .inr (.inr (.inr hn))

structure Sound (h : Hierarchy) (seeds : List Text) (s : Search) : Prop where
  once : s.visited.Nodup
  mentioned : ∀ name, s.Covers name → h.Mentions seeds name
  seeds : ∀ name ∈ seeds, s.Covers name
  subtypes : ∀ top ∈ s.visited, ∀ c, h.lookup top = some c → ∀ name ∈ c.subtypes, s.Covers name

theorem sound_start (h : Hierarchy) (seeds : List Text) : Sound h seeds (start seeds) where
  once := .nil
  mentioned := by
    intro name hn
    rcases hn with hn | hn
    · cases hn
    · exact .seed hn
  seeds := fun name hn => .inr hn
  subtypes := by
    intro top ht
    cases ht

theorem Step.visited_cases (hs : Step h s s') :
    s'.visited = s.visited ∨
      ∃ name, name ∈ s.pending ∧ name ∉ s.visited ∧ s'.visited = name :: s.visited := by
  cases hs with
  | again seen => exact .inl rfl
  | unknown new absent => exact .inr ⟨_, by simp, new, rfl⟩
  | member new found among kept placed => exact .inr ⟨_, by simp, new, rfl⟩

theorem Step.mentioned (hs : Step h s s') (hm : ∀ m, s.Covers m → h.Mentions seeds m)
    (hn : s'.Covers name) : h.Mentions seeds name := by
  cases hs with
  | again seen =>
    apply hm
    simp only [Covers, List.mem_append, List.mem_cons] at hn ⊢
    exact hn.imp id (Or.imp id .inr)
  | unknown new absent =>
    apply hm
    simp only [Covers, List.mem_append, List.mem_cons] at hn ⊢
    rcases hn with (rfl | hn) | hn | hn
    · exact .inr (.inr (.inl rfl))
    · exact .inl hn
    · exact .inr (.inl hn)
    · exact .inr (.inr (.inr hn))
  | member new found among kept placed =>
    have htop := hm _ (.inr (List.mem_append_right _ List.mem_cons_self))
    simp only [Covers, placed.mem_iff, List.mem_append, List.mem_cons] at hn
    rcases hn with (rfl | hn) | hn | hn | hn
    · exact htop
    · exact hm _ (.inl hn)
    · exact .subtype htop found (among.subset hn)
    · exact hm _ (.inr (List.mem_append_left _ hn))
    · exact hm _ (.inr (List.mem_append_right _ (List.mem_cons_of_mem _ hn)))

theorem Step.subtypes (hs : Step h s s') {top : Text} (ht : top ∈ s'.visited)
    (hnew : top ∉ s.visited) (hc : h.lookup top = some c) (hn : name ∈ c.subtypes) :
    s'.Covers name := by
  cases hs with
  | again seen => exact absurd ht hnew
  | unknown new absent =>
    obtain rfl := (List.mem_cons.mp ht).resolve_right hnew
    simp [hc] at absent
  | @member visited before after added pending first d new found among kept placed =>
    obtain rfl := (List.mem_cons.mp ht).resolve_right hnew
    obtain rfl := Option.some.inj (found.symm.trans hc)
    by_cases hv : name ∈ top :: visited
    · exact .inl hv
    · exact .inr (placed.mem_iff.mpr (List.mem_append_left _ (kept name hn hv)))

theorem Sound.step (hi : Sound h seeds s) (hs : Step h s s') : Sound h seeds s' where
  once := by
    rcases hs.visited_cases with hv | ⟨name, -, hnew, hv⟩
    · rw [hv]
      exact hi.once
    · rw [hv]
      exact List.nodup_cons.mpr ⟨hnew, hi.once⟩
  mentioned := fun name => hs.mentioned hi.mentioned
  seeds := fun name hn => hs.covers (hi.seeds name hn)
  subtypes := by
    intro top ht c hc name hn
    by_cases hold : top ∈ s.visited
    · exact hs.covers (hi.subtypes top hold c hc name hn)
    · exact hs.subtypes ht hold hc hn

theorem Walk.sound (w : Walk h n s s') (hi : Sound h seeds s) : Sound h seeds s' := by
  induction w with
  | stay s => exact hi
  | step _ hs ih => exact (ih hi).step hs

theorem Sound.mem_visited_iff (hi : Sound h seeds s) (hp : s.pending = []) :
    name ∈ s.visited ↔ h.Mentions seeds name := by
  have hcovers : ∀ m, s.Covers m ↔ m ∈ s.visited := by simp [Covers, hp]
  constructor
  · intro hn
    exact hi.mentioned name (.inl hn)
  · intro hm
    induction hm with
    | seed hs => exact (hcovers _).mp (hi.seeds _ hs)
    | subtype _ hc hn ih => exact (hcovers _).mp (hi.subtypes _ ih _ hc _ hn)

end Search

end SubtreePartition
