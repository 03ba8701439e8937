import SubtreePartition.Text.Basic

namespace SubtreePartition.Text

def IsAscii (t : Text) : Prop :=
  ∀ c ∈ t, 32 ≤ c ∧ c ≤ 126

instance (t : Text) : Decidable t.IsAscii :=
  inferInstanceAs (Decidable (∀ c ∈ t, 32 ≤ c ∧ c ≤ 126))

section Ascii

variable {c : CodePoint} {t u : Text}

theorem isAscii_cons : IsAscii (c :: t) ↔ (32 ≤ c ∧ c ≤ 126) ∧ t.IsAscii :=
  List.forall_mem_cons

theorem isAscii_append : IsAscii (t ++ u) ↔ t.IsAscii ∧ u.IsAscii :=
  List.forall_mem_append

theorem isAscii_flatMap {α : Type} {f : α → Text} {l : List α} :
    IsAscii (l.flatMap f) ↔ ∀ a ∈ l, (f a).IsAscii :=
  List.forall_mem_flatMap

theorem isAscii_intercalate {separator : Text} (hs : separator.IsAscii) {parts : List Text}
    (h : ∀ t ∈ parts, t.IsAscii) : IsAscii (intercalate separator parts) := by
  cases parts with
  | nil => exact fun _ hc => absurd hc List.not_mem_nil
  | cons t rest =>
    rw [intercalate, isAscii_append, isAscii_flatMap]
    refine ⟨h t List.mem_cons_self, fun u hu => ?_⟩
    exact isAscii_append.mpr ⟨hs, h u (List.mem_cons_of_mem t hu)⟩

end Ascii

section Separator

variable {α : Type} [DecidableEq α] {a : α} {s : List α}

theorem decide_ne_of_not_mem (h : a ∉ s) : ∀ b ∈ s, decide (b ≠ a) = true := by
  intro b hb
  exact decide_eq_true fun e : b = a => h (e ▸ hb)

theorem takeWhile_ne_append_cons (h : a ∉ s) (t : List α) :
    (s ++ a :: t).takeWhile (· ≠ a) = s := by
  rw [List.takeWhile_append_of_pos (decide_ne_of_not_mem h), List.takeWhile_cons_of_neg (by simp),
    List.append_nil]

theorem dropWhile_ne_append_cons (h : a ∉ s) (t : List α) :
    (s ++ a :: t).dropWhile (· ≠ a) = a :: t := by
  rw [List.dropWhile_append_of_pos (decide_ne_of_not_mem h), List.dropWhile_cons_of_neg (by simp)]

end Separator

theorem append_separator_inj {c : CodePoint} {s t u v : Text} (hs : c ∉ s) (ht : c ∉ t)
    (h : s ++ c :: u = t ++ c :: v) : s = t ∧ u = v := by
  have he : s = t := by
    rw [← takeWhile_ne_append_cons hs u, h, takeWhile_ne_append_cons ht v]
  subst he
  simpa using h

theorem cutAt_append_cons {c : CodePoint} {s : Text} (hs : c ∉ s) (u : Text) :
    cutAt c (s ++ c :: u) = some (s, u) := by
  rw [cutAt, dropWhile_ne_append_cons hs, takeWhile_ne_append_cons hs]

theorem pieces_append {c : CodePoint} {s t first : Text} {rest : List Text} (hs : c ∉ s)
    (ht : pieces c t = first :: rest) : pieces c (s ++ t) = (s ++ first) :: rest := by
  induction s with
  | nil => exact ht
  | cons a s ih =>
    have hac : a ≠ c := (List.ne_of_not_mem_cons hs).symm
    rw [List.cons_append, pieces_cons, ih (List.not_mem_of_not_mem_cons hs)]
    simp [addToPieces, hac]

theorem pieces_append_cons {c : CodePoint} {s : Text} (hs : c ∉ s) (t : Text) :
    pieces c (s ++ c :: t) = s :: pieces c t := by
  have ht : pieces c (c :: t) = [] :: pieces c t := by
    simp [pieces_cons, addToPieces]
  simpa using pieces_append hs ht

theorem pieces_of_not_mem {c : CodePoint} {s : Text} (hs : c ∉ s) : pieces c s = [s] := by
  simpa using pieces_append hs (pieces_nil c)

theorem pieces_append_separator (c : CodePoint) (s t : Text) :
    pieces c (s ++ c :: t) = pieces c s ++ pieces c t := by
  induction s with
  | nil => simp [pieces_nil, pieces_cons, addToPieces]
  | cons a s ih =>
    obtain ⟨first, rest, hp⟩ := List.exists_cons_of_ne_nil (pieces_ne_nil c s)
    rw [List.cons_append, pieces_cons, pieces_cons, ih, hp]
    unfold addToPieces
    split <;> simp

theorem not_mem_of_mem_pieces {c : CodePoint} {t piece : Text} (h : piece ∈ pieces c t) :
    c ∉ piece := by
  induction t generalizing piece with
  | nil => simp_all [pieces_nil]
  | cons a t ih =>
    obtain ⟨first, rest, hp⟩ := List.exists_cons_of_ne_nil (pieces_ne_nil c t)
    rw [hp] at ih
    rw [pieces_cons, hp] at h
    unfold addToPieces at h
    split at h
    next =>
      rcases List.mem_cons.mp h with rfl | h
      · exact List.not_mem_nil
      · exact ih h
    next hac =>
      rcases List.mem_cons.mp h with rfl | h
      · simpa [Ne.symm hac] using ih List.mem_cons_self
      · exact ih (List.mem_cons_of_mem _ h)

theorem intercalate_single (separator t : Text) : intercalate separator [t] = t := by
  rw [intercalate, List.flatMap_nil, List.append_nil]

theorem intercalate_prefix_concat (separator part : Text) (parts : List Text) :
    intercalate separator parts <+: intercalate separator (parts ++ [part]) := by
  cases parts with
  | nil => exact List.nil_prefix
  | cons first rest =>
    refine ⟨separator ++ part, ?_⟩
    simp [intercalate]

theorem dropRight_append {α : Type} {p : α → Bool} {s t : List α} {a : α} (ha : p a = false)
    (ht : ∀ b ∈ t, p b = true) : dropRight p (s ++ a :: t) = s ++ [a] := by
  have hdrop : (s ++ a :: t).reverse.dropWhile p = a :: s.reverse := by
    rw [List.reverse_append, List.reverse_cons, List.append_assoc,
      List.dropWhile_append_of_pos (by simpa using ht)]
    simp [ha]
  rw [dropRight, hdrop, List.reverse_cons, List.reverse_reverse]

theorem cutAt_of_not_mem {c : CodePoint} {t : Text} (h : c ∉ t) : cutAt c t = none := by
  have hdrop : t.dropWhile (· ≠ c) = [] := by
    rw [← List.append_nil t, List.dropWhile_append_of_pos (decide_ne_of_not_mem h),
      List.dropWhile_nil]
  rw [cutAt, hdrop]

theorem exists_dropRight {α : Type} (p : α → Bool) (t : List α) :
    ∃ back, t = dropRight p t ++ back ∧ (∀ b ∈ back, p b = true) ∧
      ∀ b, (dropRight p t).getLast? = some b → p b = false := by
  refine ⟨(t.reverse.takeWhile p).reverse, ?_, ?_, ?_⟩
  · rw [dropRight, ← List.reverse_append, List.takeWhile_append_dropWhile, List.reverse_reverse]
  · intro b hb
    exact List.all_eq_true.mp List.all_takeWhile b (List.mem_reverse.mp hb)
  · intro b hb
    rw [dropRight, List.getLast?_reverse] at hb
    have hhead := List.head?_dropWhile_not p t.reverse
    rw [hb] at hhead
    exact hhead

end SubtreePartition.Text
