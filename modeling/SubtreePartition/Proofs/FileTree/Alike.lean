import SubtreePartition.Proofs.FileTree.Making

namespace SubtreePartition.FileTree

variable {t t' t'' u u' u'' : FileTree} {p : FilePath} {l : Location}
  {R S : FileTree → FileTree → Prop} {P Q : Location → Prop}

def GoesAlike (R : FileTree → FileTree → Prop) (x y : Except FileFault FileTree) : Prop :=
  (∃ fault, x = .error fault ∧ y = .error fault) ∨ ∃ t u, x = .ok t ∧ y = .ok u ∧ R t u

theorem GoesAlike.mono {x y : Except FileFault FileTree} (h : GoesAlike R x y)
    (hR : ∀ t u, R t u → S t u) : GoesAlike S x y := by
  rcases h with ⟨fault, hx, hy⟩ | ⟨t, u, hx, hy, hr⟩
  · exact .inl ⟨fault, hx, hy⟩
  · exact .inr ⟨t, u, hx, hy, hR t u hr⟩

structure Same (t u : FileTree) : Prop where
  current : u.current = t.current
  find? : ∀ l, u.find? l = t.find? l

structure SameDirectories (t u : FileTree) : Prop where
  current : u.current = t.current
  directory : ∀ l, t.find? l = some .directory ↔ u.find? l = some .directory

namespace SameDirectories

theorem refl (t : FileTree) : SameDirectories t t :=
  ⟨rfl, fun _ => Iff.rfl⟩

theorem symm (h : SameDirectories t u) : SameDirectories u t :=
  ⟨h.current.symm, fun l => (h.directory l).symm⟩

theorem trans (h : SameDirectories t t') (h' : SameDirectories t' t'') : SameDirectories t t'' :=
  ⟨h'.current.trans h.current, fun l => (h.directory l).trans (h'.directory l)⟩

theorem keepsDirectories (h : SameDirectories t u) : t.KeepsDirectories u :=
  ⟨h.current, fun l => (h.directory l).mp⟩

theorem get (h : SameDirectories t u) (hd : t.get p = .ok .directory) :
    u.get p = .ok .directory := by
  obtain ⟨l, hl, hf⟩ := get_eq_ok_iff.mp hd
  exact get_eq_ok_iff.mpr ⟨l, h.keepsDirectories.locate hl, (h.directory l).mp hf⟩

end SameDirectories

theorem follow_append (t : FileTree) (here : Location) (parts more : List Text) :
    t.follow here (parts ++ more) = (t.follow here parts).bind fun last => t.follow last more := by
  induction parts generalizing here with
  | nil => rfl
  | cons part rest ih =>
    rw [List.cons_append, follow, follow]
    cases t.step here part with
    | error fault => rfl
    | ok next => exact ih next

theorem SameDirectories.locate_child (h : SameDirectories t u) (hd : t.get p = .ok .directory)
    (part : Text) : u.locate (p.child part) = t.locate (p.child part) := by
  obtain ⟨here, hl, hf⟩ := get_eq_ok_iff.mp hd
  obtain ⟨-, hfollow⟩ := locate_eq_ok_iff.mp hl
  have hu := h.keepsDirectories.follow hfollow
  have hstep : u.step here part = t.step here part := by
    rw [step, step, hf, (h.directory here).mp hf]
  have hchild : u.follow (u.origin p) (p.parts ++ [part]) =
      t.follow (t.origin p) (p.parts ++ [part]) := by
    rw [follow_append, follow_append, h.keepsDirectories.origin, hu, hfollow]
    simp only [Except.bind, follow, hstep]
  unfold locate
  cases hparts : usableParts (p.child part) with
  | error fault => rfl
  | ok parts =>
    obtain rfl := parts_of_usableParts hparts
    exact hchild

/-- `t` and `u` are changed in the same way: at some places, to the same effect, and nowhere else.
No directory comes or goes. -/
structure ChangedAlike (P : Location → Prop) (t u t' u' : FileTree) : Prop where
  current : t'.current = t.current ∧ u'.current = u.current
  places : ∀ l, (t'.find? l = t.find? l ∧ u'.find? l = u.find? l) ∨
    (P l ∧ t.find? l ≠ some .directory ∧ u.find? l ≠ some .directory ∧
      t'.find? l = u'.find? l ∧ t'.find? l ≠ some .directory)

namespace ChangedAlike

theorem refl (P : Location → Prop) (t u : FileTree) : ChangedAlike P t u t u :=
  ⟨⟨rfl, rfl⟩, fun _ => .inl ⟨rfl, rfl⟩⟩

theorem mono (h : ChangedAlike P t u t' u') (hP : ∀ l, P l → Q l) : ChangedAlike Q t u t' u' :=
  ⟨h.current, fun l => (h.places l).imp id (And.imp (hP l) id)⟩

theorem trans (h : ChangedAlike P t u t' u') (h' : ChangedAlike P t' u' t'' u'') :
    ChangedAlike P t u t'' u'' := by
  refine ⟨⟨h'.current.1.trans h.current.1, h'.current.2.trans h.current.2⟩, fun l => ?_⟩
  rcases h'.places l with ⟨ht', hu'⟩ | ⟨hP, hdt, hdu, heq, hd⟩
  · rw [ht', hu']
    exact h.places l
  · refine .inr ⟨hP, ?_, ?_, heq, hd⟩
    · rcases h.places l with ⟨ht, -⟩ | ⟨-, ht, -⟩
      · exact ht ▸ hdt
      · exact ht
    · rcases h.places l with ⟨-, hu⟩ | ⟨-, -, hu, -⟩
      · exact hu ▸ hdu
      · exact hu

theorem symm (h : ChangedAlike P t u t' u') : ChangedAlike P u t u' t' := by
  refine ⟨h.current.symm, fun l => ?_⟩
  rcases h.places l with ⟨ht, hu⟩ | ⟨hP, hdt, hdu, heq, hd⟩
  · exact .inl ⟨hu, ht⟩
  · exact .inr ⟨hP, hdu, hdt, heq.symm, heq ▸ hd⟩

theorem left (h : ChangedAlike P t u t' u') : SameDirectories t t' := by
  refine ⟨h.current.1, fun l => ?_⟩
  rcases h.places l with ⟨ht, -⟩ | ⟨-, hdt, -, -, hd⟩
  · rw [ht]
  · exact iff_of_false hdt hd

theorem sameDirectories (h : ChangedAlike P t u t' u') (hs : SameDirectories t u) :
    SameDirectories t' u' :=
  h.left.symm.trans (hs.trans h.symm.left)

theorem kept (h : ChangedAlike P t u t' u') (hP : ¬ P l) :
    t'.find? l = t.find? l ∧ u'.find? l = u.find? l :=
  (h.places l).resolve_right fun hl => hP hl.1

theorem of_find? {n : Option Node} (hc : t'.current = t.current ∧ u'.current = u.current)
    (hl : P l) (ht : t.find? l ≠ some .directory) (hu : u.find? l ≠ some .directory)
    (hn : n ≠ some .directory) (ht' : ∀ m, t'.find? m = if l = m then n else t.find? m)
    (hu' : ∀ m, u'.find? m = if l = m then n else u.find? m) : ChangedAlike P t u t' u' := by
  refine ⟨hc, fun m => ?_⟩
  rw [ht', hu']
  by_cases hm : l = m
  · subst hm
    exact .inr ⟨hl, ht, hu, by rw [if_pos rfl, if_pos rfl], by rwa [if_pos rfl]⟩
  · exact .inl ⟨if_neg hm, if_neg hm⟩

theorem comm {ta tb tab tba : FileTree} (h : ChangedAlike P t tb ta tba) (hPQ : ∀ l, P l → ¬ Q l)
    (h' : ChangedAlike Q t ta tb tab) : tab.Same tba := by
  refine ⟨?_, fun l => ?_⟩
  · rw [h.current.2, h'.current.1, h'.current.2, h.current.1]
  · rcases h.places l with ⟨ha, hba⟩ | ⟨hP, -, -, ha, -⟩
    · rcases h'.places l with ⟨hb, hab⟩ | ⟨-, -, -, hb, -⟩
      · rw [hab, ha, hba, hb]
      · rw [hba, hb]
    · rcases h'.places l with ⟨-, hab⟩ | ⟨hQ, -⟩
      · rw [hab, ha]
      · exact absurd hQ (hPQ l hP)

end ChangedAlike

theorem write_of_locate_error {fault : FileFault} {content : Bytes}
    (h : t.locate p = .error fault) : t.write p content = .error fault := by
  rw [write, h]
  rfl

theorem write_of_directory {content : Bytes} (h : t.get p = .ok .directory) :
    t.write p content = .error .isADirectory := by
  obtain ⟨l, hl, hd⟩ := get_eq_ok_iff.mp h
  simp [write, hl, hd, bind, Except.bind]

theorem goesAlike_write (hs : SameDirectories t u) (hl : u.locate p = t.locate p)
    (hP : ∀ l, t.locate p = .ok l → P l) (content : Bytes) :
    GoesAlike (ChangedAlike P t u) (t.write p content) (u.write p content) := by
  cases hp : t.locate p with
  | error fault =>
    rw [write_of_locate_error hp, write_of_locate_error (hl.trans hp)]
    exact .inl ⟨fault, rfl, rfl⟩
  | ok l =>
    rw [hp] at hl
    by_cases hd : t.find? l = some .directory
    · have hg := get_eq_ok_iff.mpr ⟨l, hp, hd⟩
      rw [write_of_directory hg, write_of_directory (hs.get hg)]
      exact .inl ⟨_, rfl, rfl⟩
    · have hd' : u.find? l ≠ some .directory := fun h => hd ((hs.directory l).mpr h)
      have hne := ne_nil_of_find?_ne hd
      rw [write_eq_ok_iff.mpr ⟨l, hp, hd, rfl⟩, write_eq_ok_iff.mpr ⟨l, hl, hd', rfl⟩]
      refine .inr ⟨_, _, rfl, rfl, ?_⟩
      exact .of_find? ⟨rfl, rfl⟩ (hP l hp) hd hd' (by simp) (fun m => find?_put hne t _)
        (fun m => find?_put hne u _)

theorem goesAlike_remove {content content' : Bytes} (ht : t.locate p = .ok l)
    (hu : u.locate p = .ok l) (hft : t.find? l = some (.file content))
    (hfu : u.find? l = some (.file content')) (hP : P l) :
    GoesAlike (ChangedAlike P t u) (t.remove p) (u.remove p) := by
  have hd : t.find? l ≠ some .directory := by simp [hft]
  have hd' : u.find? l ≠ some .directory := by simp [hfu]
  have hne := ne_nil_of_find?_ne hd
  rw [remove_eq_ok_iff.mpr ⟨l, content, ht, hft, rfl⟩,
    remove_eq_ok_iff.mpr ⟨l, content', hu, hfu, rfl⟩]
  refine .inr ⟨_, _, rfl, rfl, ?_⟩
  exact .of_find? ⟨rfl, rfl⟩ hP hd hd' (by simp) (fun m => find?_erase hne t)
    (fun m => find?_erase hne u)

end SubtreePartition.FileTree
