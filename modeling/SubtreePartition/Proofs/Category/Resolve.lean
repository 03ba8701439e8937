import SubtreePartition.Category.Boundaries
import SubtreePartition.Proofs.Category.Closure
import SubtreePartition.Proofs.Category.Set

namespace SubtreePartition

variable {ds ds' : Declarations} {seeds : List Text} {name top : Text} {c : Category}

namespace Declarations

def Lists (ds : Declarations) (name top : Text) : Prop :=
  ∃ d, (name, d) ∈ ds ∧ top ∈ d.supertypes

inductive Reaches (ds : Declarations) : Text → Text → Prop where
  | refl {name : Text} : ds.declares name = true → Reaches ds name name
  | step {name next top : Text} : ds.Lists name next → Reaches ds next top → Reaches ds name top

theorem declares_iff : ds.declares name = true ↔ ∃ d, (name, d) ∈ ds := by
  simp [declares]

theorem Lists.declares (h : ds.Lists name top) : ds.declares name = true := by
  obtain ⟨d, hd, -⟩ := h
  exact declares_iff.mpr ⟨d, hd⟩

theorem Reaches.declares (h : ds.Reaches name top) : ds.declares name = true := by
  cases h with
  | refl hd => exact hd
  | step hl _ => exact hl.declares

theorem mem_subtypesOf {auxiliary : Bool} :
    name ∈ (ds.subtypesOf auxiliary top).names ↔
      ∃ d, (name, d) ∈ ds ∧ d.auxiliary = auxiliary ∧ top ∈ d.supertypes := by
  simp [subtypesOf, CategorySet.mem_names_ofList]

def category (ds : Declarations) (name : Text) : Category :=
  { name := name
    primary := ds.subtypesOf false name
    auxiliary := ds.subtypesOf true name }

theorem mem_subtypes_category : name ∈ (ds.category top).subtypes ↔ ds.Lists name top := by
  simp only [Category.subtypes, category, List.mem_append, mem_subtypesOf]
  constructor
  · rintro (⟨d, hd, -, ht⟩ | ⟨d, hd, -, ht⟩)
    · exact ⟨d, hd, ht⟩
    · exact ⟨d, hd, ht⟩
  · rintro ⟨d, hd, ht⟩
    cases ha : d.auxiliary with
    | false => exact .inl ⟨d, hd, ha, ht⟩
    | true => exact .inr ⟨d, hd, ha, ht⟩

theorem lookup_ofDeclarations (ds : Declarations) (name : Text) :
    (Hierarchy.ofDeclarations ds).lookup name =
      if ds.declares name then some (ds.category name) else none := by
  have hmap : (Hierarchy.ofDeclarations ds).lookup name =
      (ds.find? fun d => d.1 = name).map fun d => ds.category d.1 := by
    rw [Hierarchy.lookup, Hierarchy.ofDeclarations, List.find?_map]
    rfl
  rw [hmap]
  cases hf : ds.find? fun d => d.1 = name with
  | none =>
    have hn : ds.declares name = false := by
      simpa [declares, List.find?_eq_none] using hf
    rw [hn]
    rfl
  | some d =>
    have hd : d.1 = name := by simpa using List.find?_some hf
    have hy : ds.declares name = true := by
      rw [← hd]
      exact declares_iff.mpr ⟨d.2, List.mem_of_find?_eq_some hf⟩
    rw [if_pos hy, Option.map_some, hd]

theorem lookup_eq_some_iff :
    (Hierarchy.ofDeclarations ds).lookup name = some c ↔
      ds.declares name = true ∧ c = ds.category name := by
  rw [lookup_ofDeclarations]
  split
  next hd => simp [hd, eq_comm]
  next hd => simp [hd]

theorem exists_reaches_of_mentions (h : (Hierarchy.ofDeclarations ds).Mentions seeds name)
    (hd : ds.declares name = true) : ∃ top ∈ seeds, ds.Reaches name top := by
  induction h with
  | @seed name hs => exact ⟨name, hs, .refl hd⟩
  | subtype _ hl hn ih =>
    obtain ⟨hdt, rfl⟩ := lookup_eq_some_iff.mp hl
    obtain ⟨seed, hs, hr⟩ := ih hdt
    exact ⟨seed, hs, .step (mem_subtypes_category.mp hn) hr⟩

theorem Reaches.mentions (h : ds.Reaches name top) (ht : top ∈ seeds) :
    (Hierarchy.ofDeclarations ds).Mentions seeds name := by
  induction h with
  | refl _ => exact .seed ht
  | step hl hr ih =>
    have hnext := lookup_eq_some_iff.mpr ⟨hr.declares, rfl⟩
    exact .subtype (ih ht) hnext (mem_subtypes_category.mpr hl)

theorem mem_closure_ofDeclarations :
    name ∈ ((Hierarchy.ofDeclarations ds).closure seeds).members ↔
      ∃ top ∈ seeds, ds.Reaches name top := by
  rw [Hierarchy.mem_members_closure]
  constructor
  · rintro ⟨hm, c, hc⟩
    exact exists_reaches_of_mentions hm (lookup_eq_some_iff.mp hc).1
  · rintro ⟨top, ht, hr⟩
    exact ⟨hr.mentions ht, _, lookup_eq_some_iff.mpr ⟨hr.declares, rfl⟩⟩

inductive Rearranges : Declarations → Declarations → Prop where
  | nil : Rearranges [] []
  | cons {name : Text} {d d' : Declaration} {ds ds' : Declarations} :
      d.supertypes.Perm d'.supertypes → Rearranges ds ds' →
        Rearranges ((name, d) :: ds) ((name, d') :: ds')
  | swap (a b : Text × Declaration) (ds : Declarations) : Rearranges (a :: b :: ds) (b :: a :: ds)
  | trans {ds mid ds' : Declarations} :
      Rearranges ds mid → Rearranges mid ds' → Rearranges ds ds'

theorem lists_cons {a : Text × Declaration} :
    Lists (a :: ds) name top ↔ (a.1 = name ∧ top ∈ a.2.supertypes) ∨ ds.Lists name top := by
  obtain ⟨first, d⟩ := a
  simp only [Lists, List.mem_cons, Prod.mk.injEq]
  constructor
  · rintro ⟨e, ⟨rfl, rfl⟩ | he, ht⟩
    · exact .inl ⟨rfl, ht⟩
    · exact .inr ⟨e, he, ht⟩
  · rintro (⟨rfl, ht⟩ | ⟨e, he, ht⟩)
    · exact ⟨d, .inl ⟨rfl, rfl⟩, ht⟩
    · exact ⟨e, .inr he, ht⟩

theorem declares_cons {a : Text × Declaration} :
    declares (a :: ds) name = true ↔ a.1 = name ∨ ds.declares name = true := by
  simp [declares]

namespace Rearranges

theorem lists_iff (h : Rearranges ds ds') : ds.Lists name top ↔ ds'.Lists name top := by
  induction h with
  | nil => exact Iff.rfl
  | cons hp _ ih => rw [lists_cons, lists_cons, ih, hp.mem_iff]
  | swap a b ds => rw [lists_cons, lists_cons, lists_cons, lists_cons, or_left_comm]
  | trans _ _ ih ih' => exact ih.trans ih'

theorem declares_iff (h : Rearranges ds ds') :
    ds.declares name = true ↔ ds'.declares name = true := by
  induction h with
  | nil => exact Iff.rfl
  | cons _ _ ih => rw [declares_cons, declares_cons, ih]
  | swap a b ds => rw [declares_cons, declares_cons, declares_cons, declares_cons, or_left_comm]
  | trans _ _ ih ih' => exact ih.trans ih'

theorem symm (h : Rearranges ds ds') : Rearranges ds' ds := by
  induction h with
  | nil => exact .nil
  | cons hp _ ih => exact .cons hp.symm ih
  | swap a b ds => exact .swap b a ds
  | trans _ _ ih ih' => exact .trans ih' ih

theorem reaches (h : Rearranges ds ds') (hr : ds.Reaches name top) : ds'.Reaches name top := by
  induction hr with
  | refl hd => exact .refl (h.declares_iff.mp hd)
  | step hl _ ih => exact .step (h.lists_iff.mp hl) ih

end Rearranges

end Declarations

namespace Resolver

def ofDeclarations (definitions : List IndexDefinition) (ds : Declarations) : Resolver :=
  { definitions := definitions, hierarchy := .ofDeclarations ds }

theorem resolve_of_none {r : Resolver} (h : r.resolved = none) :
    r.resolve.1 = .ofList (r.hierarchy.closure (seedCategories r.definitions)).members := by
  simp [resolve, h, closure]

def IsSeed (definitions : List IndexDefinition) (top : Text) : Prop :=
  ∃ d ∈ definitions, (∃ below, (top, below) ∈ d.aggregates) ∨ top ∈ d.rules

theorem mem_seedCategories {definitions : List IndexDefinition} :
    top ∈ seedCategories definitions ↔ IsSeed definitions top := by
  simp [seedCategories, IndexDefinition.seeds, IsSeed]

theorem IsSeed.perm {definitions definitions' : List IndexDefinition}
    (hp : definitions.Perm definitions') (h : IsSeed definitions top) : IsSeed definitions' top := by
  obtain ⟨d, hd, hs⟩ := h
  exact ⟨d, hp.mem_iff.mp hd, hs⟩

theorem mem_closure_seedCategories {definitions : List IndexDefinition} :
    name ∈ ((Hierarchy.ofDeclarations ds).closure (seedCategories definitions)).members ↔
      ∃ top, ds.Reaches name top ∧ IsSeed definitions top := by
  rw [Declarations.mem_closure_ofDeclarations]
  simp only [mem_seedCategories, and_comm]

theorem resolve_ofDeclarations (definitions : List IndexDefinition) (ds : Declarations) :
    (∀ name, (ofDeclarations definitions ds).resolve.1.contains name = true ↔
        ∃ top, ds.Reaches name top ∧ IsSeed definitions top) ∧
      ∀ definitions' ds', definitions.Perm definitions' → ds.Rearranges ds' →
        (ofDeclarations definitions' ds').resolve.1 = (ofDeclarations definitions ds).resolve.1 := by
  constructor
  · intro name
    rw [resolve_of_none rfl, CategorySet.contains_ofList]
    exact mem_closure_seedCategories
  · intro definitions' ds' hp hr
    rw [resolve_of_none rfl, resolve_of_none rfl, CategorySet.ofList_eq_iff]
    intro name
    refine mem_closure_seedCategories.trans (Iff.trans ?_ mem_closure_seedCategories.symm)
    constructor
    · rintro ⟨top, ht, hs⟩
      exact ⟨top, hr.symm.reaches ht, hs.perm hp.symm⟩
    · rintro ⟨top, ht, hs⟩
      exact ⟨top, hr.reaches ht, hs.perm hp⟩

def cyclicDeclarations : Declarations :=
  [("a", { supertypes := ["b", "x", "a"] }), ("b", { supertypes := ["a", "b"], auxiliary := true }),
    ("c", { supertypes := ["b", "b"] }), ("d", {})]

def rearrangedDeclarations : Declarations :=
  [("b", { supertypes := ["b", "a"] }), ("a", { supertypes := ["b", "x", "a"] }),
    ("c", { supertypes := ["b", "b"], auxiliary := true }), ("d", {})]

def cyclicDefinitions : List IndexDefinition :=
  [{ path := "/i", aggregates := [("a", ["d"])] }, { path := "/j", rules := ["x"] }]

theorem resolve_ofDeclarations_cyclic :
    (ofDeclarations cyclicDefinitions cyclicDeclarations).resolve.1.contains "c" = true ∧
      (ofDeclarations cyclicDefinitions cyclicDeclarations).resolve.1.contains "x" = false ∧
      (ofDeclarations cyclicDefinitions.reverse rearrangedDeclarations).resolve.1 =
        (ofDeclarations cyclicDefinitions cyclicDeclarations).resolve.1 := by
  obtain ⟨hmem, horder⟩ := resolve_ofDeclarations cyclicDefinitions cyclicDeclarations
  have hcb : cyclicDeclarations.Lists "c" "b" := ⟨{ supertypes := ["b", "b"] }, by decide⟩
  have hba : cyclicDeclarations.Lists "b" "a" :=
    ⟨{ supertypes := ["a", "b"], auxiliary := true }, by decide⟩
  have hseed : IsSeed cyclicDefinitions "a" :=
    ⟨{ path := "/i", aggregates := [("a", ["d"])] }, by decide, .inl ⟨["d"], by decide⟩⟩
  have hr : cyclicDeclarations.Rearranges rearrangedDeclarations :=
    .trans (.swap _ _ _)
      (.cons (.swap _ _ _) (.cons (.refl _) (.cons (.refl _) (.cons (.refl _) .nil))))
  refine ⟨(hmem "c").mpr ⟨"a", .step hcb (.step hba (.refl (by decide))), hseed⟩, ?_, ?_⟩
  · refine Bool.eq_false_iff.mpr fun hx => ?_
    obtain ⟨top, ht, -⟩ := (hmem "x").mp hx
    exact absurd ht.declares (by decide)
  · exact horder _ _ (List.reverse_perm _).symm hr

end Resolver

end SubtreePartition
