import SubtreePartition.FileTree.Access
import SubtreePartition.FileTree.Change

namespace SubtreePartition

structure FilePath.IsAbove (q p : FilePath) : Prop where
  slashes : q.slashes = p.slashes
  parts : q.parts <+: p.parts

theorem FilePath.IsAbove.refl (p : FilePath) : p.IsAbove p :=
  ⟨rfl, List.prefix_refl _⟩

theorem FilePath.IsAbove.trans {o q p : FilePath} (h : o.IsAbove q) (h' : q.IsAbove p) :
    o.IsAbove p :=
  ⟨h.slashes.trans h'.slashes, h.parts.trans h'.parts⟩

theorem FilePath.isAbove_parent (p : FilePath) : p.parent.IsAbove p :=
  ⟨rfl, List.dropLast_prefix _⟩

namespace FileTree

variable {t t' : FileTree} {p : FilePath} {l : Location}

theorem last_inj {here there : Location} {name name' : Text}
    (h : here ++ [name] = there ++ [name']) : name = name' := by
  simpa using congrArg List.getLast? h

theorem assign_eq_self {nodes : List (Location × Node)} (h : nodes.lookup l = some n) :
    assign l n nodes = nodes := by
  induction nodes with
  | nil => cases h
  | cons m rest ih =>
    rw [lookup_cons_eq] at h
    rw [assign]
    split
    next hm =>
      rw [if_pos hm.symm] at h
      rw [← hm, ← Option.some.inj h]
    next hm =>
      rw [if_neg (Ne.symm hm)] at h
      rw [ih h]

theorem step_eq_ok_iff {here : Location} {part : Text} :
    t.step here part = .ok l ↔ t.find? here = some .directory ∧
      ((part = up ∧ l = here.dropLast) ∨
        (part ≠ up ∧ isTooLong part = false ∧ l = here ++ [part])) := by
  unfold step
  cases hn : t.find? here with
  | none => simp
  | some n =>
    cases n with
    | file content => simp
    | directory =>
      by_cases hu : part = up
      · simp only [if_pos hu, Except.ok.injEq]
        simpa [hu] using eq_comm
      · by_cases hl : isTooLong part = true
        · simp [hu, hl]
        · simp only [if_neg hu, hl, Bool.false_eq_true, if_false, Except.ok.injEq]
          simpa [hu] using eq_comm

theorem follow_cons {here : Location} {part : Text} {rest : List Text} :
    t.follow here (part :: rest) = .ok l ↔
      ∃ next, t.step here part = .ok next ∧ t.follow next rest = .ok l := by
  simp only [follow]
  cases t.step here part with
  | error fault => simp [bind, Except.bind]
  | ok next => simp [bind, Except.bind]

theorem follow_concat {here : Location} {parts : List Text} {part : Text} :
    t.follow here (parts ++ [part]) = .ok l ↔
      ∃ last, t.follow here parts = .ok last ∧ t.step last part = .ok l := by
  induction parts generalizing here with
  | nil =>
    rw [List.nil_append, follow_cons]
    simp [follow]
  | cons head rest ih =>
    simp only [List.cons_append, follow_cons, ih]
    constructor
    · rintro ⟨next, hs, last, hf, hl⟩
      exact ⟨last, ⟨next, hs, hf⟩, hl⟩
    · rintro ⟨last, ⟨next, hs, hf⟩, hl⟩
      exact ⟨next, hs, last, hf, hl⟩

theorem parts_of_usableParts {parts : List Text} (h : usableParts p = .ok parts) :
    parts = p.parts := by
  unfold usableParts at h
  split at h
  · cases h
  · split at h
    · cases h
    · split at h
      · cases h
      · exact (Except.ok.inj h).symm

theorem locate_eq_ok_iff :
    t.locate p = .ok l ↔
      usableParts p = .ok p.parts ∧ t.follow (t.origin p) p.parts = .ok l := by
  unfold locate
  cases hu : usableParts p with
  | error fault => simp [bind, Except.bind]
  | ok parts => simp [bind, Except.bind, parts_of_usableParts hu]

theorem get_eq_ok_iff {n : Node} :
    t.get p = .ok n ↔ ∃ l, t.locate p = .ok l ∧ t.find? l = some n := by
  unfold get
  cases t.locate p with
  | error fault => simp [bind, Except.bind]
  | ok l => cases h : t.find? l <;> simp [bind, Except.bind, h]

theorem read_eq_ok_iff {bytes : Bytes} :
    t.read p = .ok bytes ↔ t.get p = .ok (.file bytes) := by
  unfold read
  cases t.get p with
  | error fault => simp [bind, Except.bind]
  | ok n => cases n <;> simp [bind, Except.bind]

theorem read_eq_ok_iff_file {bytes : Bytes} :
    t.read p = .ok bytes ↔ ∃ l, t.locate p = .ok l ∧ t.find? l = some (.file bytes) :=
  read_eq_ok_iff.trans get_eq_ok_iff

theorem write_eq_ok_iff {content : Bytes} :
    t.write p content = .ok t' ↔
      ∃ l, t.locate p = .ok l ∧ t.find? l ≠ some .directory ∧
        t' = t.put l (.file content) := by
  unfold write
  cases t.locate p with
  | error fault => simp [bind, Except.bind]
  | ok l =>
    cases h : t.find? l with
    | none => simp [bind, Except.bind, h, eq_comm]
    | some n => cases n <;> simp [bind, Except.bind, h, eq_comm]

theorem remove_eq_ok_iff :
    t.remove p = .ok t' ↔
      ∃ l content, t.locate p = .ok l ∧ t.find? l = some (.file content) ∧ t' = t.erase l := by
  unfold remove
  cases t.locate p with
  | error fault => simp [bind, Except.bind]
  | ok l =>
    cases h : t.find? l with
    | none => simp [bind, Except.bind, h]
    | some n => cases n <;> simp [bind, Except.bind, h, eq_comm]

theorem makeDirectory_eq_ok_iff :
    t.makeDirectory p = .ok t' ↔
      ∃ l, t.locate p = .ok l ∧ t.find? l = none ∧ t' = t.put l .directory := by
  unfold makeDirectory
  cases t.locate p with
  | error fault => simp [bind, Except.bind]
  | ok l => cases h : t.find? l <;> simp [bind, Except.bind, h, eq_comm]

theorem ne_nil_of_find?_ne (h : t.find? l ≠ some .directory) : l ≠ [] := by
  rintro rfl
  exact h (by simp [find?])

/-- Every place that holds something lies in a directory, and relative paths start from one. -/
structure WellFormed (t : FileTree) : Prop where
  current : t.find? t.current = some .directory
  parent : ∀ l n, t.find? l = some n → t.find? l.dropLast = some .directory

theorem wellFormed_of_nodes (hc : t.find? t.current = some .directory)
    (hp : ∀ m ∈ t.nodes, t.find? m.1.dropLast = some .directory) : t.WellFormed := by
  refine ⟨hc, fun l n h => ?_⟩
  by_cases hl : l = []
  · simp [hl, find?]
  · rw [find?, if_neg hl] at h
    exact hp _ (lookup_mem h)

theorem WellFormed.origin (h : t.WellFormed) (p : FilePath) :
    t.find? (t.origin p) = some .directory := by
  unfold FileTree.origin
  split
  · simp [find?]
  · exact h.current

theorem WellFormed.locate_file (h : t.WellFormed) {content : Bytes} (hl : t.locate p = .ok l)
    (hf : t.find? l = some (.file content)) : ∃ here, l = here ++ [p.name] := by
  obtain ⟨-, hfollow⟩ := locate_eq_ok_iff.mp hl
  rcases List.eq_nil_or_concat p.parts with hp | ⟨parts, part, hp⟩
  · rw [hp, follow] at hfollow
    cases hfollow
    rw [h.origin p] at hf
    cases hf
  · rw [List.concat_eq_append] at hp
    rw [hp, follow_concat] at hfollow
    obtain ⟨here, -, hs⟩ := hfollow
    obtain ⟨hd, ⟨-, rfl⟩ | ⟨-, -, rfl⟩⟩ := step_eq_ok_iff.mp hs
    · rw [h.parent here _ hd] at hf
      cases hf
    · exact ⟨here, by simp [FilePath.name, hp]⟩

theorem locate_child {part : Text} (hu : part ≠ up) (hl : t.locate (p.child part) = .ok l) :
    ∃ here, t.follow (t.origin p) p.parts = .ok here ∧ l = here ++ [part] := by
  obtain ⟨-, hfollow⟩ := locate_eq_ok_iff.mp hl
  have ho : t.origin (p.child part) = t.origin p := rfl
  rw [FilePath.child, follow_concat] at hfollow
  obtain ⟨here, hf, hs⟩ := hfollow
  obtain ⟨-, ⟨h, -⟩ | ⟨-, -, rfl⟩⟩ := step_eq_ok_iff.mp hs
  · exact absurd h hu
  · exact ⟨here, ho ▸ hf, rfl⟩

structure KeepsDirectories (t t' : FileTree) : Prop where
  current : t'.current = t.current
  directory : ∀ l, t.find? l = some .directory → t'.find? l = some .directory

namespace KeepsDirectories

theorem refl (t : FileTree) : KeepsDirectories t t :=
  ⟨rfl, fun _ h => h⟩

theorem trans {t'' : FileTree} (h : KeepsDirectories t t') (h' : KeepsDirectories t' t'') :
    KeepsDirectories t t'' :=
  ⟨h'.current.trans h.current, fun l hl => h'.directory l (h.directory l hl)⟩

theorem follow (h : KeepsDirectories t t') {here : Location} {parts : List Text}
    (hf : t.follow here parts = .ok l) : t'.follow here parts = .ok l := by
  induction parts generalizing here with
  | nil => exact hf
  | cons part rest ih =>
    obtain ⟨next, hs, hn⟩ := follow_cons.mp hf
    obtain ⟨hd, hcases⟩ := step_eq_ok_iff.mp hs
    exact follow_cons.mpr ⟨next, step_eq_ok_iff.mpr ⟨h.directory here hd, hcases⟩, ih hn⟩

theorem origin (h : KeepsDirectories t t') (p : FilePath) : t'.origin p = t.origin p := by
  unfold FileTree.origin
  rw [h.current]

theorem locate (h : KeepsDirectories t t') (hl : t.locate p = .ok l) : t'.locate p = .ok l := by
  obtain ⟨hu, hf⟩ := locate_eq_ok_iff.mp hl
  refine locate_eq_ok_iff.mpr ⟨hu, ?_⟩
  rw [h.origin]
  exact h.follow hf

end KeepsDirectories

theorem keepsDirectories_put (hd : t.find? l ≠ some .directory) (n : Node) :
    KeepsDirectories t (t.put l n) := by
  refine ⟨rfl, fun m hm => ?_⟩
  have hne : l ≠ m := fun e => hd (e ▸ hm)
  rw [find?_put (ne_nil_of_find?_ne hd), if_neg hne]
  exact hm

theorem keepsDirectories_write {content : Bytes} (h : t.write p content = .ok t') :
    KeepsDirectories t t' := by
  obtain ⟨l, -, hd, rfl⟩ := write_eq_ok_iff.mp h
  exact keepsDirectories_put hd _

theorem find?_write {content : Bytes} {m : Location} (h : t.write p content = .ok t')
    (hl : t.locate p = .ok l) :
    t'.find? m = if l = m then some (.file content) else t.find? m := by
  obtain ⟨l', hl', hd, rfl⟩ := write_eq_ok_iff.mp h
  obtain rfl : l = l' := Except.ok.inj (hl.symm.trans hl')
  exact find?_put (ne_nil_of_find?_ne hd) _ _

theorem keepsDirectories_remove (h : t.remove p = .ok t') : KeepsDirectories t t' := by
  obtain ⟨l, content, -, hf, rfl⟩ := remove_eq_ok_iff.mp h
  have hd : t.find? l ≠ some .directory := by simp [hf]
  refine ⟨rfl, fun m hm => ?_⟩
  have hne : l ≠ m := fun e => hd (e ▸ hm)
  rw [find?_erase (ne_nil_of_find?_ne hd), if_neg hne]
  exact hm

theorem find?_remove {m : Location} (h : t.remove p = .ok t') (hl : t.locate p = .ok l) :
    t'.find? m = if l = m then none else t.find? m := by
  obtain ⟨l', content, hl', hf, rfl⟩ := remove_eq_ok_iff.mp h
  obtain rfl : l = l' := Except.ok.inj (hl.symm.trans hl')
  have hd : t.find? l ≠ some .directory := by simp [hf]
  exact find?_erase (ne_nil_of_find?_ne hd) _

theorem read_remove_of_ne {q : FilePath} {m : Location} {content : Bytes}
    (h : t.remove p = .ok t') (hp : t.locate p = .ok l) (hq : t.locate q = .ok m) (hne : l ≠ m)
    (hr : t.read q = .ok content) : t'.read q = .ok content := by
  obtain ⟨m', hm, hf⟩ := read_eq_ok_iff_file.mp hr
  obtain rfl : m = m' := Except.ok.inj (hq.symm.trans hm)
  refine read_eq_ok_iff_file.mpr ⟨m, (keepsDirectories_remove h).locate hq, ?_⟩
  rw [find?_remove h hp, if_neg hne, hf]

structure Extends (t t' : FileTree) : Prop where
  current : t'.current = t.current
  find? : ∀ l n, t.find? l = some n → t'.find? l = some n

namespace Extends

theorem refl (t : FileTree) : Extends t t :=
  ⟨rfl, fun _ _ h => h⟩

theorem trans {t'' : FileTree} (h : Extends t t') (h' : Extends t' t'') : Extends t t'' :=
  ⟨h'.current.trans h.current, fun l n hl => h'.find? l n (h.find? l n hl)⟩

theorem keepsDirectories (h : Extends t t') : KeepsDirectories t t' :=
  ⟨h.current, fun l => h.find? l .directory⟩

theorem get {n : Node} (h : Extends t t') (hg : t.get p = .ok n) : t'.get p = .ok n := by
  obtain ⟨l, hl, hn⟩ := get_eq_ok_iff.mp hg
  exact get_eq_ok_iff.mpr ⟨l, h.keepsDirectories.locate hl, h.find? l n hn⟩

theorem read {bytes : Bytes} (h : Extends t t') (hr : t.read p = .ok bytes) :
    t'.read p = .ok bytes :=
  read_eq_ok_iff.mpr (h.get (read_eq_ok_iff.mp hr))

end Extends

theorem extends_makeDirectory (h : t.makeDirectory p = .ok t') : Extends t t' := by
  obtain ⟨l, -, hn, rfl⟩ := makeDirectory_eq_ok_iff.mp h
  refine ⟨rfl, fun m n hm => ?_⟩
  have hne : l ≠ m := by
    rintro rfl
    simp [hn] at hm
  have hd : t.find? l ≠ some .directory := by simp [hn]
  rw [find?_put (ne_nil_of_find?_ne hd), if_neg hne]
  exact hm

theorem settle_eq_ok {fault : FileFault} (h : t.settle p fault = .ok t') : t' = t := by
  unfold settle at h
  cases hd : t.isDirectory p with
  | error e => simp [hd, bind, Except.bind] at h
  | ok b =>
    simp only [hd, bind, Except.bind] at h
    split at h
    · exact (Except.ok.inj h).symm
    · cases h

section Making

variable {P : FileTree → Prop}

theorem makeLast_induction (hs : ∀ t t', t.makeDirectory p = .ok t' → P t → P t') (ht : P t) :
    P (t.makeLast p).1 := by
  unfold makeLast
  split
  next t' h => exact hs t t' h ht
  next fault h =>
    split
    next t' h => exact settle_eq_ok h ▸ ht
    next => exact ht

theorem makeDirectoriesWith_induction
    (hs : ∀ t t' q, q.IsAbove p → t.makeDirectory q = .ok t' → P t → P t') (ht : P t)
    (fuel : Nat) : P (t.makeDirectoriesWith p fuel).1 := by
  induction fuel generalizing t p with
  | zero => exact ht
  | succ fuel ih =>
    have hlast : ∀ t t', t.makeDirectory p = .ok t' → P t → P t' :=
      fun t t' => hs t t' p (.refl p)
    unfold makeDirectoriesWith
    split
    · split
      · exact ht
      · have hp := ih (fun t t' q hq => hs t t' q (hq.trans p.isAbove_parent)) ht
        split
        next t' fault h => simpa [h] using hp
        next t' h =>
          rw [h] at hp
          split
          · exact hp
          · exact makeLast_induction hlast hp
    · exact makeLast_induction hlast ht

theorem makeDirectories_induction {fault : Option FileFault}
    (hs : ∀ t t' q, q.IsAbove p → t.makeDirectory q = .ok t' → P t → P t') (ht : P t)
    (h : t.makeDirectories p = (t', fault)) : P t' := by
  have hp := makeDirectoriesWith_induction hs ht (p.parts.length + 1)
  rw [makeDirectories] at h
  rwa [h] at hp

end Making

theorem extends_makeDirectories {fault : Option FileFault}
    (h : t.makeDirectories p = (t', fault)) : Extends t t' :=
  makeDirectories_induction (fun _ _ _ _ hm he => he.trans (extends_makeDirectory hm)) (.refl t) h

def KeptOrMade (t : FileTree) (p : FilePath) (l : Location) (t' : FileTree) : Prop :=
  t'.find? l = t.find? l ∨
    (t.find? l = none ∧ t'.find? l = some .directory ∧
      ∃ q : FilePath, q.IsAbove p ∧ t'.locate q = .ok l)

theorem KeptOrMade.makeDirectory {q : FilePath} {t'' : FileTree} (h : KeptOrMade t p l t')
    (hq : q.IsAbove p) (hm : t'.makeDirectory q = .ok t'') : KeptOrMade t p l t'' := by
  have hk := (extends_makeDirectory hm).keepsDirectories
  obtain ⟨m, hl, hn, rfl⟩ := makeDirectory_eq_ok_iff.mp hm
  have hne : m ≠ [] := ne_nil_of_find?_ne (t := t') (by simp [hn])
  by_cases hml : m = l
  · subst hml
    refine .inr ⟨?_, by rw [find?_put hne, if_pos rfl], q, hq, hk.locate hl⟩
    rcases h with h | ⟨h, -, -⟩
    · exact h.symm.trans hn
    · exact h
  · have hsame : (t'.put m .directory).find? l = t'.find? l := by rw [find?_put hne, if_neg hml]
    rcases h with h | ⟨hfree, hd, o, ho, hlo⟩
    · exact .inl (hsame.trans h)
    · exact .inr ⟨hfree, hsame.trans hd, o, ho, hk.locate hlo⟩

theorem keptOrMade_makeDirectories {fault : Option FileFault}
    (h : t.makeDirectories p = (t', fault)) (l : Location) : KeptOrMade t p l t' :=
  makeDirectories_induction (fun _ _ _ hq hm hp => hp.makeDirectory hq hm) (.inl rfl) h

end FileTree

structure Volume extends FileTree where
  wellFormed : toFileTree.WellFormed

instance : Coe Volume FileTree :=
  ⟨Volume.toFileTree⟩

end SubtreePartition
