import Mathlib.Data.List.Nodup
import SubtreePartition.Proofs.Category.LeastClosure

namespace SubtreePartition

variable {ds ds' : Declarations} {h : Hierarchy} {kind : Bool} {name top : Text} {c : Category}

namespace Declarations

def IsMapping (ds : Declarations) : Prop :=
  (ds.map Prod.fst).Nodup

instance (ds : Declarations) : Decidable ds.IsMapping :=
  inferInstanceAs (Decidable (ds.map Prod.fst).Nodup)

def ListsAs (ds : Declarations) (kind : Bool) (name top : Text) : Prop :=
  ∃ d, (name, d) ∈ ds ∧ d.auxiliary = kind ∧ top ∈ d.supertypes

theorem IsMapping.unique {d d' : Declaration} (h : ds.IsMapping) (hd : (name, d) ∈ ds)
    (hd' : (name, d') ∈ ds) : d = d' := by
  have he := List.inj_on_of_nodup_map h hd hd' rfl
  exact congrArg Prod.snd he

theorem ListsAs.declares (h : ds.ListsAs kind name top) : ds.declares name = true := by
  obtain ⟨d, hd, -⟩ := h
  exact declares_iff.mpr ⟨d, hd⟩

theorem IsMapping.disjoint (h : ds.IsMapping) (hp : ds.ListsAs false name top) :
    ¬ ds.ListsAs true name top := by
  rintro ⟨d', hd', ha', -⟩
  obtain ⟨d, hd, ha, -⟩ := hp
  rw [h.unique hd hd', ha'] at ha
  cases ha

theorem listsAs_cons {d : Text × Declaration} :
    ListsAs (d :: ds) kind name top ↔
      (d.1 = name ∧ d.2.auxiliary = kind ∧ top ∈ d.2.supertypes) ∨ ds.ListsAs kind name top := by
  obtain ⟨first, d⟩ := d
  simp only [ListsAs, List.mem_cons, Prod.mk.injEq]
  constructor
  · rintro ⟨e, ⟨rfl, rfl⟩ | he, hk, ht⟩
    · exact .inl ⟨rfl, hk, ht⟩
    · exact .inr ⟨e, he, hk, ht⟩
  · rintro (⟨rfl, hk, ht⟩ | ⟨e, he, hk, ht⟩)
    · exact ⟨d, .inl ⟨rfl, rfl⟩, hk, ht⟩
    · exact ⟨e, .inr he, hk, ht⟩

def Restates (d d' : Text × Declaration) : Prop :=
  d.1 = d'.1 ∧ d.2.auxiliary = d'.2.auxiliary ∧ d.2.supertypes.Perm d'.2.supertypes

def Reorders (ds ds' : Declarations) : Prop :=
  ∃ mid : Declarations, ds.Perm mid ∧ List.Forall₂ Restates mid ds'

theorem listsAs_iff_of_restates (h : List.Forall₂ Restates ds ds') :
    ds.ListsAs kind name top ↔ ds'.ListsAs kind name top := by
  induction h with
  | nil => exact Iff.rfl
  | @cons d d' _ _ hd _ ih =>
    obtain ⟨hn, ha, hs⟩ := hd
    exact listsAs_cons.trans (Iff.trans (by rw [hn, ha, hs.mem_iff, ih]) listsAs_cons.symm)

theorem declares_iff_of_restates (h : List.Forall₂ Restates ds ds') :
    ds.declares name = true ↔ ds'.declares name = true := by
  induction h with
  | nil => exact Iff.rfl
  | @cons d d' _ _ hd _ ih =>
    exact declares_cons.trans (Iff.trans (by rw [hd.1, ih]) declares_cons.symm)

theorem Reorders.listsAs_iff (h : ds.Reorders ds') :
    ds.ListsAs kind name top ↔ ds'.ListsAs kind name top := by
  obtain ⟨mid, hperm, hall⟩ := h
  have hmid : ds.ListsAs kind name top ↔ ListsAs mid kind name top := by
    simp only [ListsAs, hperm.mem_iff]
  exact hmid.trans (listsAs_iff_of_restates hall)

theorem Reorders.declares_iff (h : ds.Reorders ds') :
    ds.declares name = true ↔ ds'.declares name = true := by
  obtain ⟨mid, hperm, hall⟩ := h
  have hmid : ds.declares name = true ↔ declares mid name = true := by
    simp only [Declarations.declares_iff, hperm.mem_iff]
  exact hmid.trans (declares_iff_of_restates hall)

theorem subtypesOf_eq_ofList {names : List Text} (h : ∀ x, ds.ListsAs kind x top ↔ x ∈ names) :
    ds.subtypesOf kind top = .ofList names := by
  rw [subtypesOf, CategorySet.ofList_eq_iff]
  intro x
  exact CategorySet.mem_names_ofList.symm.trans (mem_subtypesOf.trans (h x))

theorem Reorders.category_eq (h : ds.Reorders ds') (name : Text) :
    ds'.category name = ds.category name := by
  have hset (kind : Bool) : ds'.subtypesOf kind name = ds.subtypesOf kind name := by
    apply subtypesOf_eq_ofList
    intro x
    have hmem : ds.ListsAs kind x name ↔ x ∈ (ds.subtypesOf kind name).names :=
      mem_subtypesOf.symm
    exact h.listsAs_iff.symm.trans (hmem.trans CategorySet.mem_names_ofList)
  rw [category, category, hset, hset]

theorem Reorders.lookup_eq (h : ds.Reorders ds') (name : Text) :
    (Hierarchy.ofDeclarations ds').lookup name = (Hierarchy.ofDeclarations ds).lookup name := by
  have hd : ds'.declares name = ds.declares name := Bool.eq_iff_iff.mpr h.declares_iff.symm
  rw [lookup_ofDeclarations, lookup_ofDeclarations, hd, h.category_eq]

end Declarations

abbrev Gathering := Bool → Text → List Text

namespace Gathering

variable {g : Gathering} {m : Text} {k : Bool} {supertypes : List Text}

def add (g : Gathering) (kind : Bool) (top name : Text) : Gathering := fun k m =>
  if k = kind ∧ m = top then name :: g k m else g k m

def addUnder (ds : Declarations) (kind : Bool) (name : Text) (g : Gathering)
    (supertypes : List Text) : Gathering :=
  supertypes.foldl (fun g top => if ds.declares top then g.add kind top name else g) g

def ofDeclarations (ds : Declarations) : Gathering :=
  ds.foldl (fun g d => g.addUnder ds d.2.auxiliary d.1 d.2.supertypes) fun _ _ => []

def category (g : Gathering) (name : Text) : Category :=
  { name := name, primary := .ofList (g false name), auxiliary := .ofList (g true name) }

theorem mem_add {x : Text} :
    x ∈ g.add kind top name k m ↔ (x = name ∧ k = kind ∧ m = top) ∨ x ∈ g k m := by
  unfold add
  split
  next he => simp [he]
  next he => simp [he]

theorem mem_addUnder {x : Text} :
    x ∈ g.addUnder ds kind name supertypes k m ↔
      (x = name ∧ k = kind ∧ m ∈ supertypes ∧ ds.declares m = true) ∨ x ∈ g k m := by
  induction supertypes generalizing g with
  | nil => simp [addUnder]
  | cons top rest ih =>
    rw [addUnder, List.foldl_cons, ← addUnder, ih, List.mem_cons]
    by_cases hm : m = top
    · subst hm
      split
      next hd =>
        rw [mem_add]
        tauto
      next hd => simp [hd]
    · split
      next => simp [mem_add, hm]
      next => simp [hm]

theorem mem_foldl_addUnder {done : Declarations} {x : Text} :
    x ∈ done.foldl (fun g d => g.addUnder ds d.2.auxiliary d.1 d.2.supertypes) g k m ↔
      (done.ListsAs k x m ∧ ds.declares m = true) ∨ x ∈ g k m := by
  induction done generalizing g with
  | nil => simp [Declarations.ListsAs]
  | cons d rest ih =>
    rw [List.foldl_cons, ih, mem_addUnder, Declarations.listsAs_cons]
    constructor
    · rintro (⟨hl, hd⟩ | ⟨rfl, rfl, hm, hd⟩ | hx)
      · exact .inl ⟨.inr hl, hd⟩
      · exact .inl ⟨.inl ⟨rfl, rfl, hm⟩, hd⟩
      · exact .inr hx
    · rintro (⟨⟨rfl, rfl, hm⟩ | hl, hd⟩ | hx)
      · exact .inr (.inl ⟨rfl, rfl, hm, hd⟩)
      · exact .inl ⟨hl, hd⟩
      · exact .inr (.inr hx)

theorem mem_ofDeclarations :
    name ∈ ofDeclarations ds kind top ↔ ds.ListsAs kind name top ∧ ds.declares top = true := by
  rw [ofDeclarations, mem_foldl_addUnder]
  simp

theorem category_ofDeclarations (h : ds.declares top = true) :
    (ofDeclarations ds).category top = ds.category top := by
  have hset (kind : Bool) : ds.subtypesOf kind top = .ofList (ofDeclarations ds kind top) := by
    apply Declarations.subtypesOf_eq_ofList
    intro x
    rw [mem_ofDeclarations, and_iff_left h]
  rw [category, Declarations.category, hset, hset]

end Gathering

namespace Hierarchy

theorem put_of_ne {cs : List Category} (h : ∀ d ∈ cs, d.name ≠ c.name) : put c cs = cs ++ [c] := by
  induction cs with
  | nil => rfl
  | cons d rest ih =>
    rw [put, if_neg (h d List.mem_cons_self), ih fun e he => h e (List.mem_cons_of_mem d he)]
    rfl

theorem entries_foldl_register {cs : List Category}
    (hn : ((h.entries ++ cs).map Category.name).Nodup) :
    (cs.foldl register h).entries = h.entries ++ cs := by
  induction cs generalizing h with
  | nil => simp
  | cons c rest ih =>
    have hput : (h.register c).entries = h.entries ++ [c] := by
      refine put_of_ne fun d hd he => ?_
      rw [List.map_append, List.map_cons, List.nodup_append] at hn
      exact hn.2.2 d.name (List.mem_map_of_mem hd) c.name List.mem_cons_self he
    have hsplit : h.entries ++ c :: rest = (h.register c).entries ++ rest := by
      rw [hput, List.append_assoc]
      rfl
    rw [List.foldl_cons, hsplit]
    rw [hsplit] at hn
    exact ih hn

/-- The hierarchy as it comes about: all subtypes are gathered first, one supertype after the other,
and then the declared names are registered in turn. -/
def gathered (ds : Declarations) : Hierarchy :=
  ofRegistrations (ds.map fun d => (Gathering.ofDeclarations ds).category d.1)

theorem gathered_eq (hm : ds.IsMapping) : gathered ds = ofDeclarations ds := by
  have hmap : ds.map (fun d => (Gathering.ofDeclarations ds).category d.1) =
      ds.map fun d => ds.category d.1 := by
    refine List.map_congr_left fun d hd => ?_
    exact Gathering.category_ofDeclarations (Declarations.declares_iff.mpr ⟨d.2, hd⟩)
  have hnames : (ds.map fun d => ds.category d.1).map Category.name = ds.map Prod.fst := by
    rw [List.map_map]
    rfl
  have hnodup :
      (([] ++ ds.map fun d : Text × Declaration => ds.category d.1).map Category.name).Nodup := by
    rw [List.nil_append, hnames]
    exact hm
  have hentries : (gathered ds).entries = ds.map fun d => ds.category d.1 := by
    rw [gathered, ofRegistrations, hmap]
    exact entries_foldl_register hnodup
  exact congrArg Hierarchy.mk hentries

theorem registered_ofDeclarations :
    (ofDeclarations ds).registered.contains name = true ↔ ds.declares name = true := by
  rw [registered, CategorySet.contains_ofList, Declarations.declares_iff]
  simp [ofDeclarations]

/-- The hierarchy holds the declared names, each above just the categories that list it. -/
structure Inverts (h : Hierarchy) (ds : Declarations) : Prop where
  registered : ∀ name, h.registered.contains name = true ↔ ds.declares name = true
  found : ∀ name, h.Registered name ↔ ds.declares name = true
  named : ∀ top c, h.lookup top = some c → c.name = top
  primary : ∀ top c, h.lookup top = some c →
    ∀ name, c.primary.contains name = true ↔ ds.ListsAs false name top
  auxiliary : ∀ top c, h.lookup top = some c →
    ∀ name, c.auxiliary.contains name = true ↔ ds.ListsAs true name top
  disjoint : ∀ top c, h.lookup top = some c →
    ∀ name, ¬ (c.primary.contains name = true ∧ c.auxiliary.contains name = true)
  below : ∀ top name, h.Below top name → h.Registered name
  skips : ∀ r : Resolver, r.hierarchy = h → ∀ seeds e, e ∈ (r.closure seeds).2 ↔
    ∃ name ∈ seeds, ds.declares name = false ∧ e = .unknownCategory name

theorem registered_iff_declares :
    (ofDeclarations ds).Registered name ↔ ds.declares name = true := by
  simp [Registered, Declarations.lookup_eq_some_iff]

theorem contains_subtypesOf :
    (ds.subtypesOf kind top).contains name = true ↔ ds.ListsAs kind name top := by
  rw [CategorySet.contains, List.contains_iff_mem]
  exact Declarations.mem_subtypesOf

theorem registered_of_below (hb : (ofDeclarations ds).Below top name) :
    (ofDeclarations ds).Registered name := by
  obtain ⟨c, hc, hn⟩ := below_iff.mp hb
  obtain ⟨-, rfl⟩ := Declarations.lookup_eq_some_iff.mp hc
  exact registered_iff_declares.mpr (Declarations.mem_subtypes_category.mp hn).declares

theorem skips_iff {r : Resolver} (hr : r.hierarchy = ofDeclarations ds) {seeds : List Text}
    {e : Event} : e ∈ (r.closure seeds).2 ↔
      ∃ name ∈ seeds, ds.declares name = false ∧ e = .unknownCategory name := by
  rw [(r.finds_closure seeds).skipped e, hr]
  constructor
  · rintro ⟨m, rfl, hm, hs | ⟨top, -, hb⟩⟩
    · rw [registered_iff_declares, Bool.not_eq_true] at hm
      exact ⟨m, hs, hm, rfl⟩
    · exact absurd (registered_of_below hb) hm
  · rintro ⟨m, hs, hm, rfl⟩
    refine ⟨m, rfl, ?_, .inl hs⟩
    rw [registered_iff_declares, hm]
    exact Bool.false_ne_true

theorem ofDeclarations_inverts (hm : ds.IsMapping) :
    Inverts (ofDeclarations ds) ds ∧ gathered ds = ofDeclarations ds ∧
      ∀ ds', ds.Reorders ds' →
        (∀ name, (ofDeclarations ds').lookup name = (ofDeclarations ds).lookup name) ∧
          (ofDeclarations ds').registered = (ofDeclarations ds).registered := by
  have hlookup {top : Text} {c : Category} (hc : (ofDeclarations ds).lookup top = some c) :
      c = ds.category top := (Declarations.lookup_eq_some_iff.mp hc).2
  refine ⟨⟨fun _ => registered_ofDeclarations, fun _ => registered_iff_declares, ?_, ?_, ?_, ?_,
    fun _ _ => registered_of_below, fun r hr _ _ => skips_iff hr⟩, gathered_eq hm, ?_⟩
  · intro top c hc
    rw [hlookup hc]
    rfl
  · intro top c hc name
    rw [hlookup hc]
    exact contains_subtypesOf
  · intro top c hc name
    rw [hlookup hc]
    exact contains_subtypesOf
  · rintro top c hc name ⟨hp, ha⟩
    rw [hlookup hc] at hp ha
    exact hm.disjoint (contains_subtypesOf.mp hp) (contains_subtypesOf.mp ha)
  · intro ds' hr
    refine ⟨hr.lookup_eq, ?_⟩
    rw [registered, registered, CategorySet.ofList_eq_iff]
    intro name
    rw [← CategorySet.contains_ofList, ← CategorySet.contains_ofList]
    exact registered_ofDeclarations.trans
      (hr.declares_iff.symm.trans registered_ofDeclarations.symm)

def reorderedDeclarations : Declarations :=
  [("d", {}), ("b", { supertypes := ["b", "a"], auxiliary := true }),
    ("a", { supertypes := ["x", "a", "b"] }), ("c", { supertypes := ["b", "b"] })]

theorem ofDeclarations_inverts_cyclic :
    Resolver.cyclicDeclarations.IsMapping ∧
      Resolver.cyclicDeclarations.Reorders reorderedDeclarations ∧
      (∃ c, (ofDeclarations Resolver.cyclicDeclarations).lookup "a" = some c ∧
        c.primary.contains "a" = true ∧ c.auxiliary.contains "b" = true ∧
        c.primary.contains "b" = false ∧
        (ofDeclarations reorderedDeclarations).lookup "a" = some c) ∧
      gathered Resolver.cyclicDeclarations = ofDeclarations Resolver.cyclicDeclarations := by
  have hm : Resolver.cyclicDeclarations.IsMapping := by decide
  have hr : Resolver.cyclicDeclarations.Reorders reorderedDeclarations := by
    refine ⟨[("d", {}), ("b", { supertypes := ["a", "b"], auxiliary := true }),
      ("a", { supertypes := ["b", "x", "a"] }), ("c", { supertypes := ["b", "b"] })], ?_, ?_⟩
    · decide
    · exact .cons ⟨rfl, rfl, by decide⟩ (.cons ⟨rfl, rfl, by decide⟩
        (.cons ⟨rfl, rfl, by decide⟩ (.cons ⟨rfl, rfl, by decide⟩ .nil)))
  obtain ⟨hinverts, hgathered, horder⟩ := ofDeclarations_inverts hm
  obtain ⟨c, hc⟩ := (hinverts.found "a").mpr (by decide)
  have hauxiliary : c.auxiliary.contains "b" = true := (hinverts.auxiliary _ c hc _).mpr
    ⟨{ supertypes := ["a", "b"], auxiliary := true }, by decide, rfl, by decide⟩
  refine ⟨hm, hr, ⟨c, hc, ?_, hauxiliary, ?_, ?_⟩, hgathered⟩
  · exact (hinverts.primary _ c hc _).mpr
      ⟨{ supertypes := ["b", "x", "a"] }, by decide, rfl, by decide⟩
  · refine Bool.eq_false_iff.mpr fun hp => ?_
    exact hinverts.disjoint _ c hc _ ⟨hp, hauxiliary⟩
  · rw [(horder _ hr).1, hc]

end Hierarchy

end SubtreePartition
