import SubtreePartition.Proofs.FileTree.Access

namespace SubtreePartition

def Node.bare : Node → Node
  | .directory => .directory
  | .file _ => .file []

namespace FileTree

variable {t t' u : FileTree} {p : FilePath} {l : Location} {n : Node}

def bare (t : FileTree) : FileTree :=
  { t with nodes := t.nodes.map fun n => (n.1, n.2.bare) }

theorem lookup_map_bare (l : Location) (nodes : List (Location × Node)) :
    (nodes.map fun n => (n.1, n.2.bare)).lookup l = (nodes.lookup l).map Node.bare := by
  induction nodes with
  | nil => rfl
  | cons n rest ih =>
    rw [List.map_cons, lookup_cons_eq, lookup_cons_eq, ih]
    split <;> rfl

theorem assign_map_bare (l : Location) (n : Node) (nodes : List (Location × Node)) :
    assign l n.bare (nodes.map fun n => (n.1, n.2.bare)) =
      (assign l n nodes).map fun n => (n.1, n.2.bare) := by
  induction nodes with
  | nil => rfl
  | cons m rest ih =>
    rw [List.map_cons, assign, assign, ih]
    split <;> rfl

theorem find?_bare (t : FileTree) (l : Location) : t.bare.find? l = (t.find? l).map Node.bare := by
  unfold find?
  split
  · rfl
  · exact lookup_map_bare l t.nodes

theorem put_bare (t : FileTree) (l : Location) (n : Node) :
    t.bare.put l n.bare = (t.put l n).bare := by
  simp only [put, bare, assign_map_bare]

theorem step_bare (t : FileTree) (here : Location) (part : Text) :
    t.bare.step here part = t.step here part := by
  unfold step
  rw [find?_bare]
  rcases t.find? here with _ | _ | _ <;> rfl

theorem follow_bare (t : FileTree) (here : Location) (parts : List Text) :
    t.bare.follow here parts = t.follow here parts := by
  induction parts generalizing here with
  | nil => rfl
  | cons part rest ih => simp only [follow, step_bare, ih]

theorem locate_bare (t : FileTree) (p : FilePath) : t.bare.locate p = t.locate p := by
  have ho : t.bare.origin p = t.origin p := rfl
  simp only [locate, ho, follow_bare]

theorem write_bare (t : FileTree) (p : FilePath) (content : Bytes) :
    t.bare.write p [] = (t.write p content).map bare := by
  unfold write
  rw [locate_bare]
  cases t.locate p with
  | error fault => rfl
  | ok l =>
    have hput := t.put_bare l (.file content)
    simp only [bind, Except.bind, find?_bare]
    rcases t.find? l with _ | _ | _
    · exact congrArg Except.ok hput
    · rfl
    · exact congrArg Except.ok hput

theorem erase_bare (t : FileTree) (l : Location) : t.bare.erase l = (t.erase l).bare := by
  simp only [erase, bare, List.filter_map]
  rfl

theorem remove_bare (t : FileTree) (p : FilePath) :
    t.bare.remove p = (t.remove p).map bare := by
  unfold remove
  rw [locate_bare]
  cases t.locate p with
  | error fault => rfl
  | ok l =>
    have herase := t.erase_bare l
    simp only [bind, Except.bind, find?_bare]
    rcases t.find? l with _ | _ | _
    · rfl
    · rfl
    · exact congrArg Except.ok herase

theorem makeDirectory_bare (t : FileTree) (p : FilePath) :
    t.bare.makeDirectory p = (t.makeDirectory p).map bare := by
  unfold makeDirectory
  rw [locate_bare]
  cases t.locate p with
  | error fault => rfl
  | ok l =>
    have hput := t.put_bare l .directory
    simp only [bind, Except.bind, find?_bare]
    rcases t.find? l with _ | _ | _
    · exact congrArg Except.ok hput
    · rfl
    · rfl

theorem isDirectory_bare (t : FileTree) (p : FilePath) :
    t.bare.isDirectory p = t.isDirectory p := by
  unfold isDirectory get
  rw [locate_bare]
  cases t.locate p with
  | error fault => rfl
  | ok l =>
    simp only [bind, Except.bind, find?_bare]
    rcases t.find? l with _ | _ | _ <;> rfl

theorem settle_bare (t : FileTree) (p : FilePath) (fault : FileFault) :
    t.bare.settle p fault = (t.settle p fault).map bare := by
  unfold settle
  rw [isDirectory_bare]
  cases t.isDirectory p with
  | error fault => rfl
  | ok b =>
    simp only [bind, Except.bind]
    split <;> rfl

theorem makeLast_bare (t : FileTree) (p : FilePath) :
    t.bare.makeLast p = ((t.makeLast p).1.bare, (t.makeLast p).2) := by
  unfold makeLast
  rw [makeDirectory_bare]
  cases t.makeDirectory p with
  | ok t' => rfl
  | error fault =>
    simp only [Except.map, settle_bare]
    cases t.settle p fault <;> rfl

theorem makeDirectoriesWith_bare (t : FileTree) (p : FilePath) (fuel : Nat) :
    t.bare.makeDirectoriesWith p fuel =
      ((t.makeDirectoriesWith p fuel).1.bare, (t.makeDirectoriesWith p fuel).2) := by
  induction fuel generalizing t p with
  | zero => rfl
  | succ fuel ih =>
    have hlast := t.makeLast_bare p
    unfold makeDirectoriesWith
    rw [makeDirectory_bare, ih]
    rcases t.makeDirectory p with fault | t'
    · cases fault with
      | notFound =>
        simp only [Except.map]
        split
        · rfl
        · rcases t.makeDirectoriesWith p.parent fuel with ⟨u, _ | fault⟩
          · have hlast' := u.makeLast_bare p
            simp only [makeDirectory_bare]
            rcases u.makeDirectory p with fault | u'
            · cases fault with
              | notFound => rfl
              | _ => exact hlast'
            · exact hlast'
          · rfl
      | _ => exact hlast
    · exact hlast

theorem makeDirectories_bare (t : FileTree) (p : FilePath) :
    t.bare.makeDirectories p = ((t.makeDirectories p).1.bare, (t.makeDirectories p).2) :=
  t.makeDirectoriesWith_bare p _

theorem error_or_ok_of_bare {x y : Except FileFault FileTree} (h : x.map bare = y.map bare) :
    (∃ fault, x = .error fault ∧ y = .error fault) ∨
      ∃ t u, x = .ok t ∧ y = .ok u ∧ t.bare = u.bare := by
  cases x with
  | error fault =>
    cases y with
    | error fault' => exact .inl ⟨fault, rfl, congrArg Except.error (Except.error.inj h).symm⟩
    | ok u => cases h
  | ok t =>
    cases y with
    | error fault => cases h
    | ok u => exact .inr ⟨t, u, rfl, rfl, Except.ok.inj h⟩

theorem exists_write_of_bare {content : Bytes} (hb : t.bare = u.bare)
    (h : t.write p content = .ok t') (content' : Bytes) :
    ∃ u', u.write p content' = .ok u' ∧ t'.bare = u'.bare := by
  have hmap : (t.write p content).map bare = (u.write p content').map bare := by
    rw [← write_bare, ← write_bare, hb]
  rcases error_or_ok_of_bare hmap with ⟨fault, ht, -⟩ | ⟨t₁, u', ht, hu, hb'⟩
  · rw [ht] at h
    cases h
  · rw [ht] at h
    exact ⟨u', hu, Except.ok.inj h ▸ hb'⟩

theorem exists_makeDirectories_of_bare {fault : Option FileFault} (hb : t.bare = u.bare)
    (h : t.makeDirectories p = (t', fault)) :
    ∃ u', u.makeDirectories p = (u', fault) ∧ t'.bare = u'.bare := by
  have ht := t.makeDirectories_bare p
  rw [h, hb, makeDirectories_bare] at ht
  obtain ⟨htree, hfault⟩ := Prod.mk.inj ht
  exact ⟨_, Prod.ext rfl hfault, htree.symm⟩

theorem exists_write_of_read {bytes : Bytes} (h : t.read p = .ok bytes) (content : Bytes) :
    ∃ t', t.write p content = .ok t' := by
  obtain ⟨l, hl, hf⟩ := read_eq_ok_iff_file.mp h
  exact ⟨_, write_eq_ok_iff.mpr ⟨l, hl, by simp [hf], rfl⟩⟩

theorem bare_eq_of_write {bytes content : Bytes} (h : t.read p = .ok bytes)
    (hw : t.write p content = .ok t') : t.bare = t'.bare := by
  obtain ⟨l, hl, hf⟩ := read_eq_ok_iff_file.mp h
  obtain ⟨l', hl', hd, rfl⟩ := write_eq_ok_iff.mp hw
  obtain rfl : l = l' := Except.ok.inj (hl.symm.trans hl')
  have hbare : t.bare.find? l = some (.file []) := by
    rw [find?_bare, hf]
    rfl
  rw [find?, if_neg (ne_nil_of_find?_ne hd)] at hbare
  rw [← put_bare, put, Node.bare, assign_eq_self hbare]

theorem read_of_write {content : Bytes} (hw : t.write p content = .ok t') :
    t'.read p = .ok content := by
  obtain ⟨l, hl, -, -⟩ := write_eq_ok_iff.mp hw
  refine read_eq_ok_iff_file.mpr ⟨l, (keepsDirectories_write hw).locate hl, ?_⟩
  rw [find?_write hw hl, if_pos rfl]

theorem find?_bare_eq_directory_iff :
    t.bare.find? l = some .directory ↔ t.find? l = some .directory := by
  rw [find?_bare]
  rcases t.find? l with _ | _ | _ <;> simp [Node.bare]

theorem find?_directory_of_bare (hb : t.bare = u.bare) (h : t.find? l = some .directory) :
    u.find? l = some .directory := by
  rw [← find?_bare_eq_directory_iff, ← hb]
  exact find?_bare_eq_directory_iff.mpr h

theorem WellFormed.of_bare (hb : t.bare = u.bare) (h : t.WellFormed) : u.WellFormed := by
  have hc : t.bare.current = u.bare.current := by rw [hb]
  change t.current = u.current at hc
  refine ⟨hc ▸ find?_directory_of_bare hb h.current, fun l n hn => ?_⟩
  have hf := u.find?_bare l
  rw [← hb, find?_bare, hn] at hf
  obtain ⟨m, hm, -⟩ := Option.map_eq_some_iff.mp hf
  exact find?_directory_of_bare hb (h.parent l m hm)

end FileTree

end SubtreePartition
