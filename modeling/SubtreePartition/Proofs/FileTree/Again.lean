import SubtreePartition.Proofs.FileTree.Kept
import SubtreePartition.Proofs.FileTree.Making

namespace SubtreePartition.FileTree

variable {t t' : FileTree} {p : FilePath} {l : Location} {n : Node} {fault : FileFault}
  {fuel : Nat}

theorem put_eq_self (hl : l ≠ []) (h : t.find? l = some n) : t.put l n = t := by
  rw [find?, if_neg hl] at h
  rw [put, assign_eq_self h]

theorem write_self {content : Bytes} (h : t.read p = .ok content) : t.write p content = .ok t := by
  obtain ⟨l, hl, hf⟩ := read_eq_ok_iff_file.mp h
  have hd : t.find? l ≠ some .directory := by simp [hf]
  refine write_eq_ok_iff.mpr ⟨l, hl, hd, ?_⟩
  rw [put_eq_self (ne_nil_of_find?_ne hd) hf]

theorem read_ne_ok_of_remove {content : Bytes} (h : t.remove p = .ok t') :
    t'.read p ≠ .ok content := by
  obtain ⟨l, _, hl, -, -⟩ := remove_eq_ok_iff.mp h
  intro hr
  obtain ⟨l', hl', hf⟩ := read_eq_ok_iff_file.mp hr
  obtain rfl : l = l' := Except.ok.inj (((keepsDirectories_remove h).locate hl).symm.trans hl')
  rw [find?_remove h hl, if_pos rfl] at hf
  cases hf

theorem makeDirectoriesWith_of_ne_notFound (h : t.makeDirectory p ≠ .error .notFound)
    (fuel : Nat) : t.makeDirectoriesWith p (fuel + 1) = t.makeLast p := by
  rw [makeDirectoriesWith]
  split
  next hm => exact absurd hm h
  next => rfl

theorem makeLast_of_directory (h : t.get p = .ok .directory) : t.makeLast p = (t, none) := by
  obtain ⟨l, hl, hd⟩ := get_eq_ok_iff.mp h
  have hm : t.makeDirectory p = .error .alreadyExists := by
    simp [makeDirectory, hl, hd, bind, Except.bind]
  have hs : t.settle p .alreadyExists = .ok t := settle_eq_ok_iff.mpr ⟨rfl, rfl, h⟩
  simp only [makeLast, hm, hs]

theorem makeDirectoriesWith_of_directory (h : t.get p = .ok .directory) (hf : 0 < fuel) :
    t.makeDirectoriesWith p fuel = (t, none) := by
  obtain ⟨l, hl, -⟩ := get_eq_ok_iff.mp h
  obtain ⟨fuel, rfl⟩ : ∃ k, fuel = k + 1 := ⟨fuel - 1, by omega⟩
  rw [makeDirectoriesWith_of_ne_notFound (makeDirectory_ne_notFound hl), makeLast_of_directory h]

theorem makeLast_failed (h : t.makeLast p = (t', some fault)) : t' = t := by
  unfold makeLast at h
  split at h
  next => cases congrArg Prod.snd h
  next =>
    split at h
    next => cases congrArg Prod.snd h
    next => exact (congrArg Prod.fst h).symm

theorem makeLast_of_parent (hp : p.parts ≠ []) (h : t.get p.parent ≠ .ok .directory) :
    ∃ fault, t.makeLast p = (t, some fault) := by
  have hl : ∀ l, t.locate p ≠ .ok l := by
    intro l hl
    exact h (get_parent hp hl)
  cases hloc : t.locate p with
  | ok l => exact absurd hloc (hl l)
  | error fault =>
    simp only [makeLast, makeDirectory_of_locate_error hloc]
    cases hs : t.settle p fault with
    | error fault' => exact ⟨fault', rfl⟩
    | ok u =>
      obtain ⟨-, -, hd⟩ := settle_eq_ok_iff.mp hs
      obtain ⟨l, hl', -⟩ := get_eq_ok_iff.mp hd
      exact absurd hl' (hl l)

theorem again_of_parent {fault' : FileFault} (hp : p.parts ≠ []) (hf : 0 < fuel)
    (h : t.makeDirectoriesWith p.parent fuel = (t, some fault')) :
    ∃ fault, t.makeDirectoriesWith p (fuel + 1) = (t, some fault) := by
  have hnone : t.get p.parent ≠ .ok .directory := by
    intro hd
    rw [makeDirectoriesWith_of_directory hd hf] at h
    cases congrArg Prod.snd h
  by_cases hm : t.makeDirectory p = .error .notFound
  · refine ⟨fault', ?_⟩
    simp only [makeDirectoriesWith, hm, hp, if_false, h]
  · rw [makeDirectoriesWith_of_ne_notFound hm]
    exact makeLast_of_parent hp hnone

theorem makeDirectoriesWith_again (hf : p.parts.length < fuel)
    (h : t.makeDirectoriesWith p fuel = (t', some fault)) :
    ∃ fault', t'.makeDirectoriesWith p fuel = (t', some fault') := by
  induction fuel generalizing t p t' fault with
  | zero => omega
  | succ fuel ih =>
    by_cases hm : t.makeDirectory p = .error .notFound
    · by_cases hp : p.parts = []
      · have hstop : ∀ u, u = t → u.makeDirectoriesWith p (fuel + 1) = (u, some .notFound) := by
          rintro u rfl
          simp only [makeDirectoriesWith, hm, hp, if_true]
        rw [hstop t rfl] at h
        exact ⟨.notFound, hstop t' (congrArg Prod.fst h).symm⟩
      · have hlen : p.parent.parts.length < fuel := by
          have hpos := List.length_pos_iff.mpr hp
          rw [FilePath.parent, List.length_dropLast]
          omega
        -- What is above has either been made by now, or cannot be made a second time either.
        rcases hparent : t.makeDirectoriesWith p.parent fuel with ⟨u, _ | fault'⟩
        · simp only [makeDirectoriesWith, hm, hp, if_false, hparent] at h
          have hd := makeDirectoriesWith_of_directory (get_makeDirectoriesWith hparent)
            (show 0 < fuel by omega)
          by_cases hn : u.makeDirectory p = .error .notFound
          · simp only [hn] at h
            obtain rfl : u = t' := congrArg Prod.fst h
            refine ⟨.notFound, ?_⟩
            simp only [makeDirectoriesWith, hn, hp, if_false, hd]
          · split at h
            next hn' => exact absurd hn' hn
            obtain rfl := makeLast_failed h
            exact ⟨fault, by rw [makeDirectoriesWith_of_ne_notFound hn, h]⟩
        · simp only [makeDirectoriesWith, hm, hp, if_false, hparent] at h
          obtain rfl : u = t' := congrArg Prod.fst h
          obtain ⟨fault'', hsecond⟩ := ih hlen hparent
          exact again_of_parent hp (by omega) hsecond
    · rw [makeDirectoriesWith_of_ne_notFound hm] at h
      obtain rfl := makeLast_failed h
      exact ⟨fault, by rw [makeDirectoriesWith_of_ne_notFound hm, h]⟩

theorem makeDirectories_isSystem (h : t.makeDirectories p = (t', some fault)) :
    fault.isSystem = true ↔ IsExpressible p :=
  ⟨isExpressible_of_makeDirectoriesWith h, fun he => makeDirectoriesWith_isSystem he h⟩

theorem makeDirectories_again (h : t.makeDirectories p = (t', some fault)) :
    ∃ fault', t'.makeDirectories p = (t', some fault') ∧ fault'.isSystem = fault.isSystem := by
  obtain ⟨fault', h'⟩ := makeDirectoriesWith_again (Nat.lt_succ_self _) h
  refine ⟨fault', h', ?_⟩
  rw [Bool.eq_iff_iff, makeDirectories_isSystem h, makeDirectories_isSystem h']

theorem makeDirectories_of_directory (h : t.makeDirectories p = (t', none)) {u : FileTree}
    (hk : t'.KeepsDirectories u) : u.makeDirectories p = (u, none) := by
  obtain ⟨l, hl, hd⟩ := get_eq_ok_iff.mp (get_makeDirectoriesWith h)
  have hu : u.get p = .ok .directory :=
    get_eq_ok_iff.mpr ⟨l, hk.locate hl, hk.directory l hd⟩
  exact makeDirectoriesWith_of_directory hu (Nat.succ_pos _)

theorem tree_of_not_isSystem (h : t.makeDirectories p = (t', some fault))
    (hs : fault.isSystem = false) : t' = t := by
  have he : ¬ IsExpressible p := by
    intro he
    rw [(makeDirectories_isSystem h).mpr he] at hs
    cases hs
  have hm : t.makeDirectory p ≠ .error .notFound := by
    intro hm
    exact he ((makeDirectory_error_isSystem hm).mp rfl)
  rw [makeDirectories, makeDirectoriesWith_of_ne_notFound hm] at h
  exact makeLast_failed h

def prepared (t : FileTree) (p : FilePath) : FileTree :=
  (t.makeDirectories p).1

theorem makeDirectories_eq (t : FileTree) (p : FilePath) :
    t.makeDirectories p = (t.prepared p, (t.makeDirectories p).2) := rfl

theorem extends_prepared (t : FileTree) (p : FilePath) : t.Extends (t.prepared p) :=
  extends_makeDirectories (t.makeDirectories_eq p)

theorem WellFormed.prepared (ht : t.WellFormed) (p : FilePath) : (t.prepared p).WellFormed :=
  makeDirectories_induction (fun t t' q _ => kept_wellFormed.makeDirectory t t' q) ht
    (t.makeDirectories_eq p)

theorem makeDirectories_of_prepared {p : FilePath} (h : t.prepared p = t) :
    t.makeDirectories p = (t, none) ∨ ∃ fault, t.makeDirectories p = (t, some fault) := by
  rcases hm : t.makeDirectories p with ⟨t', _ | fault⟩
  · exact .inl (by rw [← h, prepared, hm])
  · exact .inr ⟨fault, by rw [← h, prepared, hm]⟩

theorem prepared_prepared (t : FileTree) (p : FilePath) :
    (t.prepared p).prepared p = t.prepared p := by
  rcases hm : t.makeDirectories p with ⟨t', _ | fault⟩
  · have hagain := makeDirectories_of_directory hm (.refl t')
    simp only [prepared, hm, hagain]
  · obtain ⟨fault', hagain, -⟩ := makeDirectories_again hm
    simp only [prepared, hm, hagain]

theorem get_prepared {q : FilePath} {bytes : Bytes} (h : t.read q = .ok bytes) (p : FilePath) :
    (t.prepared p).get q = t.get q := by
  rw [read_eq_ok_iff] at h
  rw [(t.extends_prepared p).get h, h]

end SubtreePartition.FileTree
