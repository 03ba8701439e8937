import Mathlib.Data.List.Nodup
import Mathlib.Order.Bounds.Basic
import SubtreePartition.Proofs.Category.Resolve

namespace SubtreePartition

variable {h : Hierarchy} {cs : List Category} {seeds visited : List Text} {name : Text} {n : Nat}
  {s : Search}

namespace Hierarchy

def ofRegistrations (cs : List Category) : Hierarchy :=
  cs.foldl register {}

theorem lookup_foldl_register (cs : List Category) (h : Hierarchy) (name : Text) :
    (cs.foldl register h).lookup name =
      (cs.reverse.find? fun c => c.name = name).or (h.lookup name) := by
  induction cs generalizing h with
  | nil => rfl
  | cons c rest ih =>
    rw [List.foldl_cons, ih, lookup_register, List.reverse_cons, List.find?_append, Option.or_assoc]
    congr 1
    by_cases hc : c.name = name
    · simp [hc]
    · simp [hc]

theorem lookup_ofRegistrations (cs : List Category) (name : Text) :
    (ofRegistrations cs).lookup name = cs.reverse.find? fun c => c.name = name := by
  rw [ofRegistrations, lookup_foldl_register]
  exact Option.or_none

def Registered (h : Hierarchy) (name : Text) : Prop :=
  ∃ c, h.lookup name = some c

def Below (h : Hierarchy) (top name : Text) : Prop :=
  ∃ c, h.lookup top = some c ∧ (name ∈ c.primary.names ∨ name ∈ c.auxiliary.names)

theorem below_iff {top : Text} :
    h.Below top name ↔ ∃ c, h.lookup top = some c ∧ name ∈ c.subtypes := by
  simp [Below, Category.subtypes]

structure IsClosed (h : Hierarchy) (seeds : List Text) (names : Set Text) : Prop where
  seeds : ∀ name ∈ seeds, h.Registered name → name ∈ names
  subtypes : ∀ top ∈ names, ∀ name, h.Below top name → h.Registered name → name ∈ names

theorem Mentions.extend {top : Text} (hm : h.Mentions seeds top) (hb : h.Below top name) :
    h.Mentions seeds name := by
  obtain ⟨c, hc, hn⟩ := below_iff.mp hb
  exact .subtype hm hc hn

theorem Mentions.mem_of_isClosed {names : Set Text} (hm : h.Mentions seeds name)
    (hcl : h.IsClosed seeds names) (hr : h.Registered name) : name ∈ names := by
  induction hm with
  | seed hs => exact hcl.seeds _ hs hr
  | subtype _ hc hn ih => exact hcl.subtypes _ (ih ⟨_, hc⟩) _ (below_iff.mpr ⟨_, hc, hn⟩) hr

theorem isLeast_mentions (h : Hierarchy) (seeds : List Text) :
    IsLeast {names | h.IsClosed seeds names}
      {name | h.Mentions seeds name ∧ h.Registered name} := by
  refine ⟨⟨fun name hs hr => ⟨.seed hs, hr⟩, ?_⟩, ?_⟩
  · intro top ht name hb hr
    exact ⟨ht.1.extend hb, hr⟩
  · intro names hcl name hn
    exact hn.1.mem_of_isClosed hcl hn.2

end Hierarchy

namespace Search

def found (h : Hierarchy) (visited : List Text) : CategorySet × Log :=
  (.ofList (members h visited), (unknown h visited).map .unknownCategory)

structure Finds (h : Hierarchy) (seeds : List Text) (found : CategorySet × Log) : Prop where
  least : IsLeast {names | h.IsClosed seeds names} {name | found.1.contains name = true}
  registered : ∀ name, found.1.contains name = true → h.Registered name
  once : found.2.Nodup
  skipped : ∀ e, e ∈ found.2 ↔ ∃ name, e = .unknownCategory name ∧ ¬h.Registered name ∧
    (name ∈ seeds ∨ ∃ top, found.1.contains top = true ∧ h.Below top name)

theorem contains_found :
    (found h visited).1.contains name = true ↔ name ∈ visited ∧ h.Registered name := by
  rw [found, CategorySet.contains_ofList, mem_members, Hierarchy.Registered]

theorem nodup_found (hv : visited.Nodup) : (found h visited).2.Nodup :=
  List.Nodup.map (fun _ _ he => Event.unknownCategory.inj he) (hv.filter _)

theorem mem_unknown_iff (hi : Sound h seeds ⟨visited, []⟩) :
    name ∈ unknown h visited ↔ ¬h.Registered name ∧
      (name ∈ seeds ∨ ∃ top ∈ visited, h.Below top name) := by
  have hmem {m : Text} : m ∈ visited ↔ h.Mentions seeds m := hi.mem_visited_iff rfl
  have hr : h.lookup name = none ↔ ¬h.Registered name := by
    rw [Hierarchy.Registered, Option.eq_none_iff_forall_ne_some, not_exists]
  rw [mem_unknown, hr, and_comm, hmem]
  refine and_congr_right fun _ => ?_
  constructor
  · intro hm
    cases hm with
    | seed hs => exact .inl hs
    | subtype ht hc hn => exact .inr ⟨_, hmem.mpr ht, Hierarchy.below_iff.mpr ⟨_, hc, hn⟩⟩
  · rintro (hs | ⟨top, ht, hb⟩)
    · exact .seed hs
    · exact (hmem.mp ht).extend hb

theorem finds_of_sound (hi : Sound h seeds ⟨visited, []⟩) : Finds h seeds (found h visited) where
  least := by
    have heq : {name | (found h visited).1.contains name = true} =
        {name | h.Mentions seeds name ∧ h.Registered name} := by
      ext name
      exact contains_found.trans (and_congr_left' (hi.mem_visited_iff rfl))
    rw [heq]
    exact h.isLeast_mentions seeds
  registered := fun name hn => (contains_found.mp hn).2
  once := nodup_found hi.once
  skipped := by
    intro e
    have hbelow {m : Text} : (∃ top ∈ visited, h.Below top m) ↔
        ∃ top, (found h visited).1.contains top = true ∧ h.Below top m := by
      constructor
      · rintro ⟨top, ht, c, hc, hm⟩
        exact ⟨top, contains_found.mpr ⟨ht, c, hc⟩, c, hc, hm⟩
      · rintro ⟨top, ht, hb⟩
        exact ⟨top, (contains_found.mp ht).1, hb⟩
    simp only [found, List.mem_map, mem_unknown_iff hi, hbelow]
    exact ⟨fun ⟨m, hm, he⟩ => ⟨m, he.symm, hm⟩, fun ⟨m, he, hm⟩ => ⟨m, hm, he.symm⟩⟩

theorem Finds.unique {found found' : CategorySet × Log} (hf : Finds h seeds found)
    (hf' : Finds h seeds found') :
    (∀ name, found.1.contains name = found'.1.contains name) ∧ found.2.Perm found'.2 := by
  have hset (m : Text) : found.1.contains m = true ↔ found'.1.contains m = true :=
    Set.ext_iff.mp (hf.least.unique hf'.least) m
  refine ⟨fun m => Bool.eq_iff_iff.mpr (hset m), ?_⟩
  refine (List.perm_ext_iff_of_nodup hf.once hf'.once).mpr fun e => ?_
  simp only [hf.skipped, hf'.skipped, hset]

end Search

namespace Resolver

def ofRegistrations (definitions : List IndexDefinition) (cs : List Category) : Resolver :=
  { definitions := definitions, hierarchy := .ofRegistrations cs }

theorem closure_eq_found (r : Resolver) (seeds : List Text) :
    ∃ n visited, Search.Walk r.hierarchy n (.start seeds) ⟨visited, []⟩ ∧
      r.closure seeds = Search.found r.hierarchy visited := by
  obtain ⟨n, visited, w, hm, hu⟩ := r.hierarchy.exists_walk_closure seeds
  refine ⟨n, visited, w, ?_⟩
  rw [closure, Search.found, hm, hu]

theorem finds_closure (r : Resolver) (seeds : List Text) :
    Search.Finds r.hierarchy seeds (r.closure seeds) := by
  obtain ⟨n, visited, w, he⟩ := r.closure_eq_found seeds
  rw [he]
  exact Search.finds_of_sound (w.sound (Search.sound_start r.hierarchy seeds))

/-- However a search picks the next pending name, it comes to an end, has looked no name up twice,
and has found what the closure is. -/
theorem closure_ofRegistrations (definitions : List IndexDefinition) (cs : List Category)
    (seeds : List Text) :
    let r := ofRegistrations definitions cs
    (∀ name, r.hierarchy.lookup name = cs.reverse.find? fun c => c.name = name) ∧
      Search.Finds r.hierarchy seeds (r.closure seeds) ∧
      (∃ n visited, Search.Walk r.hierarchy n (.start seeds) ⟨visited, []⟩ ∧
        r.closure seeds = Search.found r.hierarchy visited) ∧
      ∀ n s, Search.Walk r.hierarchy n (.start seeds) s →
        n ≤ seeds.length + Hierarchy.listings r.hierarchy.entries ∧ s.visited.Nodup ∧
          (s.pending ≠ [] → ∃ s', Search.Step r.hierarchy s s') ∧
          (s.pending = [] → Search.Finds r.hierarchy seeds (Search.found r.hierarchy s.visited) ∧
            (∀ name, (Search.found r.hierarchy s.visited).1.contains name =
              (r.closure seeds).1.contains name) ∧
            (Search.found r.hierarchy s.visited).2.Perm (r.closure seeds).2) := by
  intro r
  have hstart := Search.sound_start r.hierarchy seeds
  have hfinds : Search.Finds r.hierarchy seeds (r.closure seeds) := by
    obtain ⟨n, visited, w, he⟩ := r.closure_eq_found seeds
    rw [he]
    exact Search.finds_of_sound (w.sound hstart)
  refine ⟨Hierarchy.lookup_ofRegistrations cs, hfinds, r.closure_eq_found seeds, ?_⟩
  intro n s w
  have hi := w.sound hstart
  refine ⟨w.le_listings, hi.once, Search.exists_step, ?_⟩
  intro hp
  obtain ⟨visited, pending⟩ := s
  obtain rfl : pending = [] := hp
  have hfound := Search.finds_of_sound hi
  exact ⟨hfound, hfound.unique hfinds⟩

end Resolver

end SubtreePartition
