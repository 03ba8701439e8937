import Mathlib.Data.List.Induction
import SubtreePartition.Proofs.Category.LeastClosure
import SubtreePartition.Proofs.Text.Basic

namespace SubtreePartition

inductive Request where
  | resolve
  | closure (seeds : List Text)
  | register (c : Category)
  deriving DecidableEq

namespace Request

variable {requests : List Request} {q : Request}

def registration? : Request → Option Category
  | .register c => some c
  | _ => none

def beforeResolve (requests : List Request) : List Request :=
  requests.takeWhile (· ≠ .resolve)

theorem beforeResolve_append_of_mem (h : .resolve ∈ requests) (more : List Request) :
    beforeResolve (requests ++ more) = beforeResolve requests := by
  induction requests with
  | nil => cases h
  | cons first rest ih =>
    by_cases hf : first = .resolve
    · simp [beforeResolve, hf]
    · have hrest := ih ((List.mem_cons.mp h).resolve_left (Ne.symm hf))
      simpa [beforeResolve, hf] using hrest

theorem beforeResolve_append_resolve (h : .resolve ∉ requests) (more : List Request) :
    beforeResolve (requests ++ .resolve :: more) = requests :=
  Text.takeWhile_ne_append_cons h more

theorem beforeResolve_eq_take {k : Nat} (hk : requests[k]? = some .resolve)
    (hn : .resolve ∉ requests.take k) : beforeResolve requests = requests.take k := by
  obtain ⟨hlt, hget⟩ := List.getElem?_eq_some_iff.mp hk
  have hsplit : requests = requests.take k ++ .resolve :: requests.drop (k + 1) := by
    rw [← hget, ← List.drop_eq_getElem_cons hlt, List.take_append_drop]
  conv_lhs => rw [hsplit]
  exact beforeResolve_append_resolve hn _

theorem beforeResolve_take {k : Nat} (hm : .resolve ∈ requests.take k) :
    beforeResolve (requests.take k) = beforeResolve requests := by
  conv_rhs => rw [← List.take_append_drop k requests]
  exact (beforeResolve_append_of_mem hm _).symm

end Request

open Request

namespace Hierarchy

def after (h : Hierarchy) (requests : List Request) : Hierarchy :=
  (requests.filterMap registration?).foldl register h

theorem after_concat (h : Hierarchy) (requests : List Request) (q : Request) :
    h.after (requests ++ [q]) = (q.registration?.map (h.after requests).register).getD
      (h.after requests) := by
  rw [after, after, List.filterMap_append, List.foldl_append]
  cases q with
  | resolve => rfl
  | closure seeds => rfl
  | register c => rfl

end Hierarchy

namespace Resolver

variable {definitions : List IndexDefinition} {h : Hierarchy} {r : Resolver}
  {requests done : List Request} {q : Request} {seeds : List Text} {k : Nat}

def fresh (definitions : List IndexDefinition) (h : Hierarchy) : Resolver :=
  { definitions := definitions, hierarchy := h }

def protectedOver (definitions : List IndexDefinition) (h : Hierarchy) : CategorySet × Log :=
  (fresh definitions h).closure (seedCategories definitions)

def answer (r : Resolver) : Request → Option (CategorySet × Log) × Resolver
  | .resolve =>
      let (cs, log, r) := r.resolve
      (some (cs, log), r)
  | .closure seeds => (some (r.closure seeds), r)
  | .register c => (none, r.register c)

def answers (r : Resolver) : List Request → List (Option (CategorySet × Log))
  | [] => []
  | q :: rest => (r.answer q).1 :: answers (r.answer q).2 rest

def after (r : Resolver) (requests : List Request) : Resolver :=
  requests.foldl (fun r q => (r.answer q).2) r

theorem after_concat (r : Resolver) (requests : List Request) (q : Request) :
    r.after (requests ++ [q]) = ((r.after requests).answer q).2 := by
  simp [after]

theorem getElem?_answers (r : Resolver) (requests : List Request) (k : Nat) :
    (r.answers requests)[k]? =
      requests[k]?.map fun q => ((r.after (requests.take k)).answer q).1 := by
  induction requests generalizing r k with
  | nil => simp [answers]
  | cons q rest ih =>
    cases k with
    | zero => simp [answers, after]
    | succ k =>
      rw [answers, List.getElem?_cons_succ, List.getElem?_cons_succ, ih]
      rfl

theorem closure_congr {r r' : Resolver} (hr : r.hierarchy = r'.hierarchy) (seeds : List Text) :
    r.closure seeds = r'.closure seeds := by
  rw [closure, closure, hr]

theorem resolve_of_some {cs : CategorySet} (hr : r.resolved = some cs) :
    r.resolve = (cs, [], r) := by
  rw [resolve, hr]

/-- Once it has been resolved, the cache holds what was protected over the hierarchy of that time;
the hierarchy itself goes on. -/
structure Remembers (definitions : List IndexDefinition) (h : Hierarchy) (done : List Request)
    (r : Resolver) : Prop where
  needs : r.definitions = definitions
  hierarchy : r.hierarchy = h.after done
  unresolved : .resolve ∉ done → r.resolved = none
  resolved : .resolve ∈ done →
    r.resolved = some (protectedOver definitions (h.after (beforeResolve done))).1

namespace Remembers

theorem start (definitions : List IndexDefinition) (h : Hierarchy) :
    Remembers definitions h [] (fresh definitions h) where
  needs := rfl
  hierarchy := rfl
  unresolved := fun _ => rfl
  resolved := fun hm => absurd hm List.not_mem_nil

theorem closure_eq (hi : Remembers definitions h done r) (seeds : List Text) :
    r.closure seeds = (fresh definitions (h.after done)).closure seeds :=
  closure_congr hi.hierarchy seeds

theorem resolve_first (hi : Remembers definitions h done r) (hn : .resolve ∉ done) :
    r.resolve =
      ((protectedOver definitions (h.after done)).1,
        (protectedOver definitions (h.after done)).2 ++
          [.protectedResolved (protectedOver definitions (h.after done)).1],
        { r with resolved := some (protectedOver definitions (h.after done)).1 }) := by
  rw [resolve, hi.unresolved hn]
  simp only [hi.needs, hi.closure_eq, protectedOver]

theorem resolve_again (hi : Remembers definitions h done r) (hm : .resolve ∈ done) :
    r.resolve = ((protectedOver definitions (h.after (beforeResolve done))).1, [], r) :=
  resolve_of_some (hi.resolved hm)

theorem keep (hi : Remembers definitions h done r) (hq : q ≠ .resolve) {r' : Resolver}
    (hd : r'.definitions = r.definitions) (hr : r'.resolved = r.resolved)
    (hh : r'.hierarchy = h.after (done ++ [q])) : Remembers definitions h (done ++ [q]) r' where
  needs := hd.trans hi.needs
  hierarchy := hh
  unresolved := by
    intro hn
    rw [hr]
    exact hi.unresolved fun hm => hn (List.mem_append_left _ hm)
  resolved := by
    intro hm
    have hm : .resolve ∈ done := by simpa [Ne.symm hq] using hm
    rw [hr, beforeResolve_append_of_mem hm]
    exact hi.resolved hm

theorem step (hi : Remembers definitions h done r) (q : Request) :
    Remembers definitions h (done ++ [q]) (r.answer q).2 := by
  cases q with
  | closure seeds =>
    refine hi.keep (by simp) rfl rfl ?_
    rw [Hierarchy.after_concat]
    exact hi.hierarchy
  | register c =>
    refine hi.keep (by simp) rfl rfl ?_
    rw [Hierarchy.after_concat, ← hi.hierarchy]
    rfl
  | resolve =>
    have hh : h.after (done ++ [.resolve]) = h.after done := by
      rw [Hierarchy.after_concat]
      rfl
    by_cases hm : .resolve ∈ done
    · have he : (r.answer .resolve).2 = r := by
        rw [answer, hi.resolve_again hm]
      rw [he]
      exact
        { needs := hi.needs
          hierarchy := hi.hierarchy.trans hh.symm
          unresolved := fun hn => absurd (List.mem_append_left _ hm) hn
          resolved := by
            intro _
            rw [beforeResolve_append_of_mem hm]
            exact hi.resolved hm }
    · have he : (r.answer .resolve).2 =
          { r with resolved := some (protectedOver definitions (h.after done)).1 } := by
        rw [answer, hi.resolve_first hm]
      rw [he]
      exact
        { needs := hi.needs
          hierarchy := hi.hierarchy.trans hh.symm
          unresolved := fun hn => absurd (List.mem_append_right _ List.mem_cons_self) hn
          resolved := by
            intro _
            rw [beforeResolve_append_resolve hm] }

theorem run (definitions : List IndexDefinition) (h : Hierarchy) (done : List Request) :
    Remembers definitions h done ((fresh definitions h).after done) := by
  induction done using List.reverseRecOn with
  | nil => exact start definitions h
  | append_singleton done q ih =>
    rw [after_concat]
    exact ih.step q

end Remembers

/-- All requests to resolve get one set, which is the least that is closed over the hierarchy before
the first of them; every closure is over the hierarchy of its own time. -/
structure KeepsToFirst (definitions : List IndexDefinition) (h : Hierarchy)
    (requests : List Request) : Prop where
  least : Search.Finds (h.after (beforeResolve requests)) (seedCategories definitions)
    (protectedOver definitions (h.after (beforeResolve requests)))
  resolve : ∀ k, requests[k]? = some .resolve →
    ((fresh definitions h).answers requests)[k]? =
      some (some ((protectedOver definitions (h.after (beforeResolve requests))).1,
        if .resolve ∈ requests.take k then []
        else (protectedOver definitions (h.after (beforeResolve requests))).2 ++
          [.protectedResolved (protectedOver definitions (h.after (beforeResolve requests))).1]))
  closure : ∀ k seeds, requests[k]? = some (.closure seeds) →
    ∃ found, ((fresh definitions h).answers requests)[k]? = some (some found) ∧
      found = (fresh definitions (h.after (requests.take k))).closure seeds ∧
      Search.Finds (h.after (requests.take k)) seeds found

theorem answers_keepToFirst (definitions : List IndexDefinition) (h : Hierarchy)
    (requests : List Request) : KeepsToFirst definitions h requests where
  least := (fresh definitions _).finds_closure _
  resolve := by
    intro k hk
    have hi := Remembers.run definitions h (requests.take k)
    rw [getElem?_answers, hk, Option.map_some]
    split
    next hm => rw [answer, hi.resolve_again hm, beforeResolve_take hm]
    next hn => rw [answer, hi.resolve_first hn, beforeResolve_eq_take hk hn]
  closure := by
    intro k seeds hk
    have hi := Remembers.run definitions h (requests.take k)
    refine ⟨_, ?_, rfl, (fresh definitions _).finds_closure seeds⟩
    rw [getElem?_answers, hk, Option.map_some, answer, hi.closure_eq]

example :
    ((fresh [{ path := "/i", rules := ["a"] }]
        ⟨[{ name := "a", primary := ⟨["b"], by decide⟩ }, { name := "b" }]⟩).answers
      [.resolve, .register { name := "a" }, .closure ["a"], .resolve]).map
        (fun found => found.map Prod.fst) =
      [some ⟨["a", "b"], by decide⟩, none, some ⟨["a"], by decide⟩,
        some ⟨["a", "b"], by decide⟩] := by
  cbv

end Resolver

end SubtreePartition
