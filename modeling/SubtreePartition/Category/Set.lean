import SubtreePartition.Text.Quoted

namespace SubtreePartition

namespace Text

variable {a b : CodePoint} {s t u : Text}

theorem ble_cons_iff : ble (a :: s) (b :: t) = true ↔ a < b ∨ (a = b ∧ ble s t = true) := by
  simp [ble]

theorem ble_total (s t : Text) : ble s t = true ∨ ble t s = true := by
  induction s generalizing t with
  | nil => exact .inl rfl
  | cons a s ih =>
    cases t with
    | nil => exact .inr rfl
    | cons b t =>
      rw [ble_cons_iff, ble_cons_iff]
      rcases Nat.lt_trichotomy a b with hab | hab | hba
      · exact .inl (.inl hab)
      · exact (ih t).imp (fun hst => .inr ⟨hab, hst⟩) fun hts => .inr ⟨hab.symm, hts⟩
      · exact .inr (.inl hba)

theorem ble_trans (hst : ble s t = true) (htu : ble t u = true) : ble s u = true := by
  induction s generalizing t u with
  | nil => rfl
  | cons a s ih =>
    cases t with
    | nil => cases hst
    | cons b t =>
      cases u with
      | nil => cases htu
      | cons c u =>
        rw [ble_cons_iff] at hst htu ⊢
        rcases hst with hab | ⟨rfl, hst⟩
        · rcases htu with hbc | ⟨rfl, -⟩
          · exact .inl (Nat.lt_trans hab hbc)
          · exact .inl hab
        · exact htu.imp id fun htu => ⟨htu.1, ih hst htu.2⟩

theorem ble_antisymm (hst : ble s t = true) (hts : ble t s = true) : s = t := by
  induction s generalizing t with
  | nil =>
    cases t with
    | nil => rfl
    | cons b t => cases hts
  | cons a s ih =>
    cases t with
    | nil => cases hst
    | cons b t =>
      rw [ble_cons_iff] at hst hts
      rcases hst with hab | ⟨rfl, hst⟩
      · rcases hts with hba | ⟨rfl, -⟩
        · exact absurd hba (Nat.lt_asymm hab)
        · exact absurd hab (Nat.lt_irrefl _)
      · rcases hts with haa | ⟨-, hts⟩
        · exact absurd haa (Nat.lt_irrefl _)
        · rw [ih hst hts]

end Text

/-- A set of category names, sorted by code point and each once, so that equal sets are equal
values. -/
structure CategorySet where
  names : List Text
  sorted : names.Pairwise fun s t => Text.ble s t = true ∧ s ≠ t
  deriving DecidableEq, Repr

namespace CategorySet

def dropRepeats : List Text → List Text
  | [] => []
  | [t] => [t]
  | t :: u :: rest => if t = u then dropRepeats (u :: rest) else t :: dropRepeats (u :: rest)

theorem mem_dropRepeats {x : Text} : ∀ {t : List Text}, x ∈ dropRepeats t ↔ x ∈ t
  | [] => Iff.rfl
  | [_] => Iff.rfl
  | t :: u :: rest => by
      unfold dropRepeats
      by_cases h : t = u
      · simp [h, mem_dropRepeats (t := u :: rest)]
      · rw [if_neg h, List.mem_cons, mem_dropRepeats (t := u :: rest), ← List.mem_cons]

theorem pairwise_dropRepeats {names : List Text}
    (h : names.Pairwise fun s t => Text.ble s t = true) :
    (dropRepeats names).Pairwise fun s t => Text.ble s t = true ∧ s ≠ t := by
  fun_induction dropRepeats names with
  | case1 => exact .nil
  | case2 t => exact List.pairwise_singleton _ t
  | case3 u rest ih => exact ih h.of_cons
  | case4 t u rest hne ih =>
    obtain ⟨hle, hrest⟩ := List.pairwise_cons.mp h
    refine List.pairwise_cons.mpr ⟨fun x hx => ?_, ih hrest⟩
    rw [mem_dropRepeats] at hx
    refine ⟨hle x hx, ?_⟩
    rintro rfl
    -- A second `t` after `u` would put `u` both behind and before `t`.
    rcases List.mem_cons.mp hx with rfl | hx
    · exact hne rfl
    · exact hne (Text.ble_antisymm (hle u (by simp)) ((List.pairwise_cons.mp hrest).1 _ hx))

theorem pairwise_mergeSort (names : List Text) :
    (names.mergeSort Text.ble).Pairwise fun s t => Text.ble s t = true := by
  have htrans : ∀ s t u : Text, Text.ble s t → Text.ble t u → Text.ble s u :=
    fun _ _ _ => Text.ble_trans
  have htotal : ∀ s t : Text, Text.ble s t || Text.ble t s := by
    intro s t
    rw [Bool.or_eq_true]
    exact Text.ble_total s t
  exact List.pairwise_mergeSort htrans htotal names

def ofList (names : List Text) : CategorySet :=
  ⟨dropRepeats (names.mergeSort Text.ble), pairwise_dropRepeats (pairwise_mergeSort names)⟩

def empty : CategorySet := ⟨[], .nil⟩

def contains (s : CategorySet) (name : Text) : Bool :=
  s.names.contains name

def size (s : CategorySet) : Nat :=
  s.names.length

theorem contains_ofList {names : List Text} {x : Text} :
    (ofList names).contains x = true ↔ x ∈ names := by
  simp [contains, ofList, mem_dropRepeats]

def text (s : CategorySet) : Text :=
  Text.quotedList s.names

end CategorySet

end SubtreePartition
