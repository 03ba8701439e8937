import SubtreePartition.Category.Bundled
import SubtreePartition.Proofs.Category.Schema
import SubtreePartition.Proofs.Fallible

namespace SubtreePartition

variable {α β : Type}

namespace Checked

variable {c : Checked α} {a : α} {cs : List (Checked α)} {as : List α}

theorem toOption_eq_some_iff : c.toOption = some a ↔ c = .ok a := by
  cases c <;> simp [Except.toOption]

theorem within_eq_ok_iff {step : Step} {d : Datum} : within step d c = .ok a ↔ c = .ok a := by
  cases c with
  | ok => rfl
  | error => exact ⟨nofun, nofun⟩

theorem apply_eq_ok_iff {f : Checked (α → β)} {b : β} :
    apply f c = .ok b ↔ ∃ g a, f = .ok g ∧ c = .ok a ∧ g a = b := by
  cases f <;> cases c <;> simp [apply]

theorem pair_eq_ok_iff {c' : Checked β} {p : α × β} :
    pair c c' = .ok p ↔ c = .ok p.1 ∧ c' = .ok p.2 := by
  obtain ⟨a, b⟩ := p
  cases c <;> cases c' <;> simp [pair, apply]

theorem all_eq_ok_iff : all cs = .ok as ↔ List.Forall₂ (fun c a => c = .ok a) cs as := by
  induction cs generalizing as with
  | nil => simp [all, eq_comm]
  | cons c cs ih =>
    have hcons : all (c :: cs) = apply (apply (.ok List.cons) c) (all cs) := rfl
    rw [hcons, apply_eq_ok_iff, List.forall₂_cons_left_iff]
    constructor
    · rintro ⟨g, rest, hg, hrest, rfl⟩
      obtain ⟨_, a, he, ha, rfl⟩ := apply_eq_ok_iff.mp hg
      cases he
      exact ⟨a, rest, ha, ih.mp hrest, rfl⟩
    · rintro ⟨a, rest, ha, hrest, rfl⟩
      exact ⟨List.cons a, rest, apply_eq_ok_iff.mpr ⟨_, a, rfl, ha, rfl⟩, ih.mpr hrest, rfl⟩

end Checked

namespace Datum

open Library Checked

def named? : Scalar × Datum → Option (Text × Datum)
  | (.text t, d) => some (t, d)
  | _ => none

def fieldsOf (members : Members) : List (Text × Datum) :=
  members.filterMap named?

theorem fieldsOf_membersOf (fields : List (Text × Datum)) : fieldsOf (membersOf fields) = fields := by
  unfold fieldsOf membersOf
  rw [List.filterMap_map]
  exact List.filterMap_some

theorem named_eq_fieldsOf (members : Members) :
    Library.bundled.named (members.map fun m => (.scalar m.1, m.2)) = fieldsOf members := by
  unfold named fieldsOf
  rw [List.filterMap_map]
  refine List.filterMap_congr fun m _ => ?_
  obtain ⟨s, d⟩ := m
  cases s <;> rfl

theorem named?_eq_none {s : Scalar} (d : Datum) (hs : ∀ t, s ≠ .text t) : named? (s, d) = none := by
  cases s with
  | text t => exact absurd rfl (hs t)
  | _ => rfl

theorem lookup_fieldsOf (name : Text) (members : Members) :
    (fieldsOf members).lookup name = member? name members := by
  induction members with
  | nil => rfl
  | cons m members ih =>
    obtain ⟨s, d⟩ := m
    unfold fieldsOf member? at ih ⊢
    by_cases hs : ∃ t, s = .text t
    · obtain ⟨t, rfl⟩ := hs
      have hn : named? (.text t, d) = some (t, d) := rfl
      rw [List.filterMap_cons_some hn, List.lookup_cons, List.find?_cons]
      by_cases ht : t = name
      · simp [ht]
      · have hn : (name == t) = false := beq_false_of_ne (Ne.symm ht)
        simp [hn, ht, ih]
    · have hs : ∀ t, s ≠ .text t := fun t ht => hs ⟨t, ht⟩
      rw [List.filterMap_cons_none (named?_eq_none d hs), List.find?_cons]
      simp [hs name, ih]

def Accepts (check : Datum → Checked α) (P : Datum → α → Prop) : Prop :=
  ∀ d a, check d = .ok a ↔ P d a

def AcceptsFields (check : Members → Checked α) (P : List (Text × Datum) → α → Prop) : Prop :=
  ∀ members a, check members = .ok a ↔ P (fieldsOf members) a

variable {check : Datum → Checked α} {P : Datum → α → Prop}

theorem accepts_text : Accepts text (IsText (L := .bundled)) :=
  fun _ _ => toOption_eq_some_iff.symm

theorem accepts_boolean : Accepts boolean (IsTruth (L := .bundled)) :=
  fun _ _ => toOption_eq_some_iff.symm

theorem all_items_eq_ok_iff {as : List α} (h : Accepts check P) (items : List Datum) (k : Nat) :
    all ((items.zipIdx k).map fun p => within (.index p.2) p.1 (check p.1)) = .ok as ↔
      List.Forall₂ P items as := by
  rw [all_eq_ok_iff, List.forall₂_map_left_iff]
  induction items generalizing k as with
  | nil => simp
  | cons d items ih =>
    rw [List.zipIdx_cons, List.forall₂_cons_left_iff, List.forall₂_cons_left_iff]
    simp only [within_eq_ok_iff, h _ _] at ih ⊢
    simp only [ih]

theorem accepts_listOf (h : Accepts check P) :
    Accepts (listOf check) (IsListOf (L := .bundled) P) := by
  intro d as
  cases d with
  | list items =>
    refine (all_items_eq_ok_iff h items 0).trans ⟨fun ha => ⟨items, rfl, ha⟩, ?_⟩
    rintro ⟨_, ⟨⟩, ha⟩
    exact ha
  | scalar | mapping => exact ⟨nofun, nofun⟩

theorem keyText_eq_ok_iff {k : Scalar} {t : Text} :
    keyText k = .ok t ↔ IsText (L := .bundled) (.scalar k) t := by
  rw [keyText, within_eq_ok_iff, within_eq_ok_iff]
  exact accepts_text _ _

theorem all_members_eq_ok_iff {named : List (Text × α)} (h : Accepts check P)
    (members : Members) :
    all (members.map fun m => pair (keyText m.1) (within (.key m.1) m.2 (check m.2))) = .ok named ↔
      List.Forall₂ (fun m n => IsText (L := .bundled) m.1 n.1 ∧ P m.2 n.2)
        (members.map fun m => (.scalar m.1, m.2)) named := by
  simp only [all_eq_ok_iff, List.forall₂_map_left_iff, pair_eq_ok_iff, within_eq_ok_iff,
    keyText_eq_ok_iff, h _ _]

theorem accepts_dictionaryOf (h : Accepts check P) :
    Accepts (dictionaryOf check) (IsDictionaryOf (L := .bundled) P) := by
  intro d ms
  cases d with
  | mapping members =>
    constructor
    · intro hd
      obtain ⟨named, hn, rfl⟩ := ok_of_map hd
      exact ⟨_, named, rfl, (all_members_eq_ok_iff h members).mp hn, rfl⟩
    · rintro ⟨_, named, ⟨⟩, hn, rfl⟩
      rw [dictionaryOf, (all_members_eq_ok_iff h members).mpr hn]
      rfl
  | scalar | list => exact ⟨nofun, nofun⟩

section Fields

variable {checkAll : Members → Checked α} {R : List (Text × Datum) → α → Prop}

theorem accepts_model (h : AcceptsFields checkAll R) :
    Accepts (model checkAll) (IsModelOf (L := .bundled) R) := by
  intro d a
  cases d with
  | mapping members =>
    rw [model, h, ← named_eq_fieldsOf]
    refine ⟨fun ha => ⟨_, rfl, ha⟩, ?_⟩
    rintro ⟨_, ⟨⟩, ha⟩
    exact ha
  | scalar | list => exact ⟨nofun, nofun⟩

theorem acceptsFields_required (name : Text) (h : Accepts check P) :
    AcceptsFields (required name check) (HasField (L := .bundled) name P) := by
  intro members a
  have hl := lookup_fieldsOf name members
  unfold required
  cases hd : member? name members with
  | some d =>
    refine (within_eq_ok_iff.trans (h d a)).trans ?_
    exact (hasField_iff (L := .bundled) (hl.trans hd)).symm
  | none => exact ⟨nofun, fun ha => absurd ha (not_hasField (hl.trans hd))⟩

theorem acceptsFields_withDefault (name : Text) (dflt : α) (h : Accepts check P) :
    AcceptsFields (withDefault name dflt check) (HasFieldOr (L := .bundled) name dflt P) := by
  intro members a
  have hl := lookup_fieldsOf name members
  unfold withDefault
  cases hd : member? name members with
  | some d =>
    refine (within_eq_ok_iff.trans (h d a)).trans ?_
    exact (hasFieldOr_iff (L := .bundled) (hl.trans hd)).symm
  | none =>
    refine Iff.trans ?_ (hasFieldOr_default (hl.trans hd)).symm
    simp [eq_comm]

end Fields

end Datum

end SubtreePartition
