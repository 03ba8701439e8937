import SubtreePartition.Proofs.Fallible
import SubtreePartition.Proofs.FileTree.Access
import SubtreePartition.Proofs.Text.Basic

namespace SubtreePartition

theorem FilePath.text_parent (p : FilePath) : p.parent.text = "." ∨ p.parent.text <+: p.text := by
  rcases List.eq_nil_or_concat p.parts with hp | ⟨parts, part, hp⟩
  · have he : p.parent = p := by rw [parent, hp, List.dropLast_nil, ← hp]
    rw [he]
    exact .inr (List.prefix_refl _)
  · rw [List.concat_eq_append] at hp
    have hd : p.parent.parts = parts := by rw [parent, hp, List.dropLast_concat]
    have hs : p.parent.slashes = p.slashes := rfl
    have hpre := Text.intercalate_prefix_concat [Text.slash] part parts
    unfold text
    rw [hd, hs, hp]
    rcases hn : p.slashes with _ | n
    · cases parts with
      | nil => exact .inl rfl
      | cons first rest => exact .inr ((List.prefix_append_right_inj _).mpr hpre)
    · exact .inr ((List.prefix_append_right_inj _).mpr hpre)

namespace FileTree

variable {t t' u : FileTree} {p : FilePath} {l : Location} {fault : FileFault} {fuel : Nat}

def IsExpressible (p : FilePath) : Prop :=
  (∀ c ∈ p.text, isEncodable c = true) ∧ 0 ∉ p.text

theorem usableParts_of_isExpressible (h : IsExpressible p) :
    usableParts p = if longestPath < (Utf8.encode p.text).length then .error .nameTooLong
      else .ok p.parts := by
  have he : p.text.all isEncodable = true := List.all_eq_true.mpr h.1
  have hz : p.text.contains 0 = false := by simpa using h.2
  rw [usableParts, he, hz]
  rfl

theorem usableParts_of_not_isExpressible (h : ¬ IsExpressible p) :
    ∃ fault : FileFault, usableParts p = .error fault ∧ fault.isSystem = false := by
  unfold usableParts
  split
  next => exact ⟨.notEncodable, rfl, rfl⟩
  next he =>
    split
    next => exact ⟨.nulCharacter, rfl, rfl⟩
    next hz => exact absurd ⟨by simpa using he, by simpa using hz⟩ h

theorem isExpressible_of_usableParts (h : usableParts p = .ok p.parts) : IsExpressible p := by
  refine Classical.byContradiction fun hn => ?_
  obtain ⟨fault, hf, -⟩ := usableParts_of_not_isExpressible hn
  rw [hf] at h
  cases h

theorem isExpressible_of_locate (h : t.locate p = .ok l) : IsExpressible p :=
  isExpressible_of_usableParts (locate_eq_ok_iff.mp h).1

theorem isExpressible_parent (h : IsExpressible p) : IsExpressible p.parent := by
  rcases p.text_parent with hd | hpre
  · unfold IsExpressible
    rw [hd]
    decide
  · exact ⟨fun c hc => h.1 c (hpre.subset hc), fun hz => h.2 (hpre.subset hz)⟩

theorem usableParts_parent (h : usableParts p = .ok p.parts) :
    usableParts p.parent = .ok p.parent.parts := by
  have he := isExpressible_of_usableParts h
  rw [usableParts_of_isExpressible (isExpressible_parent he), if_neg]
  rcases p.text_parent with hd | ⟨more, hpre⟩
  · rw [hd]
    decide
  · rw [usableParts_of_isExpressible he] at h
    split at h
    · cases h
    next hlen =>
      rw [← hpre, Utf8.encode, List.flatMap_append, List.length_append] at hlen
      rw [Utf8.encode]
      omega

theorem follow_error_isSystem {here : Location} {parts : List Text}
    (h : t.follow here parts = .error fault) : fault.isSystem = true := by
  induction parts generalizing here with
  | nil => cases h
  | cons part rest ih =>
    rw [follow] at h
    cases hs : t.step here part with
    | ok next =>
      rw [hs] at h
      exact ih h
    | error fault' =>
      rw [hs] at h
      obtain rfl : fault' = fault := Except.error.inj h
      unfold step at hs
      split at hs
      next => exact Except.error.inj hs ▸ rfl
      next => exact Except.error.inj hs ▸ rfl
      next =>
        split at hs
        next => cases hs
        next =>
          split at hs
          next => exact Except.error.inj hs ▸ rfl
          next => cases hs

theorem locate_error_isSystem (h : t.locate p = .error fault) :
    fault.isSystem = true ↔ IsExpressible p := by
  unfold locate at h
  by_cases he : IsExpressible p
  · refine iff_of_true ?_ he
    rw [usableParts_of_isExpressible he] at h
    split at h
    next => exact Except.error.inj h ▸ rfl
    next => exact follow_error_isSystem h
  · obtain ⟨fault', hu, hn⟩ := usableParts_of_not_isExpressible he
    rw [hu] at h
    obtain rfl : fault' = fault := Except.error.inj h
    simp [hn, he]

theorem makeDirectory_error_isSystem (h : t.makeDirectory p = .error fault) :
    fault.isSystem = true ↔ IsExpressible p := by
  unfold makeDirectory at h
  cases hl : t.locate p with
  | error fault' =>
    rw [hl] at h
    obtain rfl : fault' = fault := Except.error.inj h
    exact locate_error_isSystem hl
  | ok l =>
    have he := isExpressible_of_locate hl
    rw [hl] at h
    refine iff_of_true ?_ he
    cases hn : t.find? l with
    | none => simp [hn, bind, Except.bind] at h
    | some n =>
      simp only [hn, bind, Except.bind] at h
      exact Except.error.inj h ▸ rfl

theorem get_parent (hp : p.parts ≠ []) (h : t.locate p = .ok l) :
    t.get p.parent = .ok .directory := by
  obtain ⟨hu, hf⟩ := locate_eq_ok_iff.mp h
  have hlast : p.parts = p.parent.parts ++ [p.parts.getLast hp] :=
    (List.dropLast_concat_getLast hp).symm
  rw [hlast, follow_concat] at hf
  obtain ⟨here, hfront, hs⟩ := hf
  obtain ⟨hd, -⟩ := step_eq_ok_iff.mp hs
  have ho : t.origin p.parent = t.origin p := rfl
  exact get_eq_ok_iff.mpr ⟨here, locate_eq_ok_iff.mpr ⟨usableParts_parent hu, ho ▸ hfront⟩, hd⟩

theorem isDirectory_eq_ok_true_iff : t.isDirectory p = .ok true ↔ t.get p = .ok .directory := by
  unfold isDirectory
  rcases t.get p with (_ | _ | _ | _ | _ | _ | _) | _ | _ <;> simp

theorem settle_eq_ok_iff :
    t.settle p fault = .ok t' ↔
      t' = t ∧ fault.isSystem = true ∧ t.get p = .ok .directory := by
  rw [← isDirectory_eq_ok_true_iff]
  unfold settle
  cases hd : t.isDirectory p with
  | error fault' => simp [bind, Except.bind]
  | ok b =>
    cases b <;> cases hf : fault.isSystem <;> simp [bind, Except.bind, eq_comm]

theorem get_error_isSystem (h : t.get p = .error fault) :
    fault.isSystem = true ↔ IsExpressible p := by
  unfold get at h
  cases hl : t.locate p with
  | error fault' =>
    rw [hl] at h
    obtain rfl : fault' = fault := Except.error.inj h
    exact locate_error_isSystem hl
  | ok l =>
    have he := isExpressible_of_locate hl
    rw [hl] at h
    refine iff_of_true ?_ he
    cases hn : t.find? l with
    | some n => simp [hn, bind, Except.bind] at h
    | none =>
      simp only [hn, bind, Except.bind] at h
      exact Except.error.inj h ▸ rfl

theorem read_error_isSystem (h : t.read p = .error fault) :
    fault.isSystem = true ↔ IsExpressible p := by
  unfold FileTree.read at h
  rcases error_of_bind h with hg | ⟨n, hg, h⟩
  · exact get_error_isSystem hg
  · obtain ⟨l, hl, -⟩ := get_eq_ok_iff.mp hg
    refine iff_of_true ?_ (isExpressible_of_locate hl)
    cases n with
    | file content => cases h
    | directory => exact Except.error.inj h ▸ rfl

theorem isExpressible_of_read {content : Bytes} (h : t.read p = .ok content) :
    IsExpressible p := by
  obtain ⟨l, hl, -⟩ := read_eq_ok_iff_file.mp h
  exact isExpressible_of_locate hl

theorem isDirectory_eq_error (h : t.isDirectory p = .error fault) : t.get p = .error fault := by
  unfold isDirectory at h
  split at h
  · cases h
  · cases h
  next hg => exact hg.trans (congrArg Except.error (Except.error.inj h))
  · cases h

theorem settle_error_isSystem {fault' : FileFault} (hf : fault.isSystem = true ↔ IsExpressible p)
    (h : t.settle p fault = .error fault') : fault'.isSystem = true ↔ IsExpressible p := by
  unfold settle at h
  cases hd : t.isDirectory p with
  | error fault'' =>
    rw [hd] at h
    obtain rfl : fault'' = fault' := Except.error.inj h
    exact get_error_isSystem (isDirectory_eq_error hd)
  | ok b =>
    simp only [hd, bind, Except.bind] at h
    split at h
    · cases h
    · exact Except.error.inj h ▸ hf

theorem get_makeLast (h : t.makeLast p = (t', none)) : t'.get p = .ok .directory := by
  unfold makeLast at h
  split at h
  next u hm =>
    obtain rfl : u = t' := congrArg Prod.fst h
    obtain ⟨l, hl, hn, rfl⟩ := makeDirectory_eq_ok_iff.mp hm
    have hne : l ≠ [] := ne_nil_of_find?_ne (t := t) (by simp [hn])
    have hl' := (extends_makeDirectory hm).keepsDirectories.locate hl
    exact get_eq_ok_iff.mpr ⟨l, hl', by rw [find?_put hne, if_pos rfl]⟩
  next fault hm =>
    split at h
    next u hs =>
      obtain rfl : u = t' := congrArg Prod.fst h
      obtain ⟨rfl, -, hg⟩ := settle_eq_ok_iff.mp hs
      exact hg
    next => cases congrArg Prod.snd h

theorem makeLast_isSystem (h : t.makeLast p = (t', some fault)) :
    fault.isSystem = true ↔ IsExpressible p := by
  unfold makeLast at h
  split at h
  next => cases congrArg Prod.snd h
  next fault' hm =>
    split at h
    next => cases congrArg Prod.snd h
    next fault'' hs =>
      obtain rfl : fault'' = fault := Option.some.inj (congrArg Prod.snd h)
      exact settle_error_isSystem (makeDirectory_error_isSystem hm) hs

structure Provides (t : FileTree) (p : FilePath) (u : FileTree) : Prop where
  larger : t.Extends u
  leads : u.get p = .ok .directory

theorem Provides.parent (h : t.Provides p u) (hp : p.parts ≠ []) : t.Provides p.parent u := by
  obtain ⟨l, hl, -⟩ := get_eq_ok_iff.mp h.leads
  exact ⟨h.larger, get_parent hp hl⟩

theorem Provides.makeLast (h : t.Provides p u) (hl : t.locate p = .ok l) :
    ∃ t', t.makeLast p = (t', none) ∧ t'.Provides p u := by
  obtain ⟨l', hl', hd⟩ := get_eq_ok_iff.mp h.leads
  obtain rfl : l = l' := Except.ok.inj ((h.larger.keepsDirectories.locate hl).symm.trans hl')
  cases hn : t.find? l with
  | none =>
    have hm : t.makeDirectory p = .ok (t.put l .directory) :=
      makeDirectory_eq_ok_iff.mpr ⟨l, hl, hn, rfl⟩
    have hne : l ≠ [] := ne_nil_of_find?_ne (t := t) (by simp [hn])
    refine ⟨t.put l .directory, by rw [FileTree.makeLast, hm], ⟨h.larger.current, ?_⟩, h.leads⟩
    intro m n hf
    rw [find?_put hne] at hf
    split at hf
    next he =>
      rw [← he, hd]
      exact hf
    next => exact h.larger.find? m n hf
  | some n =>
    have hu := h.larger.find? l n hn
    rw [hd] at hu
    cases hu
    have hm : t.makeDirectory p = .error .alreadyExists := by
      simp [makeDirectory, hl, hn, bind, Except.bind]
    have hs : t.settle p .alreadyExists = .ok t :=
      settle_eq_ok_iff.mpr ⟨rfl, rfl, get_eq_ok_iff.mpr ⟨l, hl, hn⟩⟩
    exact ⟨t, by simp only [FileTree.makeLast, hm, hs], h⟩

theorem makeDirectory_of_locate_error (h : t.locate p = .error fault) :
    t.makeDirectory p = .error fault := by
  rw [makeDirectory, h]
  rfl

theorem makeDirectory_ne_notFound (h : t.locate p = .ok l) :
    t.makeDirectory p ≠ .error .notFound := by
  unfold makeDirectory
  cases hn : t.find? l <;> simp [h, hn, bind, Except.bind]

theorem get_makeDirectoriesWith (h : t.makeDirectoriesWith p fuel = (t', none)) :
    t'.get p = .ok .directory := by
  cases fuel with
  | zero => cases congrArg Prod.snd h
  | succ fuel =>
    unfold makeDirectoriesWith at h
    split at h
    · split at h
      · cases congrArg Prod.snd h
      · split at h
        next => cases congrArg Prod.snd h
        next =>
          split at h
          next => cases congrArg Prod.snd h
          next => exact get_makeLast h
    · exact get_makeLast h

theorem makeDirectoriesWith_isSystem (he : IsExpressible p)
    (h : t.makeDirectoriesWith p fuel = (t', some fault)) : fault.isSystem = true := by
  induction fuel generalizing t p t' with
  | zero => exact Option.some.inj (congrArg Prod.snd h) ▸ rfl
  | succ fuel ih =>
    unfold makeDirectoriesWith at h
    split at h
    · split at h
      · exact Option.some.inj (congrArg Prod.snd h) ▸ rfl
      · split at h
        next u fault' hp =>
          obtain rfl : fault' = fault := Option.some.inj (congrArg Prod.snd h)
          exact ih (isExpressible_parent he) hp
        next =>
          split at h
          · exact Option.some.inj (congrArg Prod.snd h) ▸ rfl
          · exact (makeLast_isSystem h).mpr he
    · exact (makeLast_isSystem h).mpr he

theorem isExpressible_of_makeDirectoriesWith
    (h : t.makeDirectoriesWith p (fuel + 1) = (t', some fault)) (hs : fault.isSystem = true) :
    IsExpressible p := by
  unfold makeDirectoriesWith at h
  split at h
  next hm => exact (makeDirectory_error_isSystem hm).mp rfl
  next => exact (makeLast_isSystem h).mp hs

end FileTree

end SubtreePartition
