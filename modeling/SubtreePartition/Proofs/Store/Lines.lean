import SubtreePartition.Store

namespace SubtreePartition.Store

/-- `ls` are the lines of a content: a line ends after a line feed only, and the last may lack it. -/
structure LinesOf (content : Bytes) (ls : List Bytes) : Prop where
  flatten : ls.flatten = content
  nonempty : ∀ l ∈ ls, l ≠ []
  feedLast : ∀ l ∈ ls, (10 : UInt8) ∉ l.dropLast
  ended : ∀ l ∈ ls.dropLast, l.getLast? = some 10

namespace LinesOf

variable {content : Bytes} {ls : List Bytes}

theorem nil : LinesOf [] [] :=
  ⟨rfl, by simp, by simp, by simp⟩

theorem addFeed (h : LinesOf content ls) : LinesOf (10 :: content) ([10] :: ls) := by
  refine ⟨by simp [h.flatten], ?_, ?_, ?_⟩
  · simpa using h.nonempty
  · simpa using h.feedLast
  · intro l hl
    cases ls with
    | nil => simp at hl
    | cons line rest =>
      rw [List.dropLast_cons_cons] at hl
      rcases List.mem_cons.mp hl with rfl | hl
      · rfl
      · exact h.ended l hl

theorem single {b : UInt8} : LinesOf [b] [[b]] :=
  ⟨rfl, by simp, by simp, by simp⟩

theorem addOther {b : UInt8} {line : Bytes} {rest : List Bytes} (hb : b ≠ 10)
    (h : LinesOf content (line :: rest)) :
    LinesOf (b :: content) ((b :: line) :: rest) := by
  have hn : line ≠ [] := h.nonempty line (by simp)
  obtain ⟨c, more, rfl⟩ := List.exists_cons_of_ne_nil hn
  refine ⟨by simpa using congrArg (List.cons b) h.flatten, ?_, ?_, ?_⟩
  · intro l hl
    rcases List.mem_cons.mp hl with rfl | hl
    · simp
    · exact h.nonempty l (by simp [hl])
  · intro l hl
    rcases List.mem_cons.mp hl with rfl | hl
    · have hf := h.feedLast (c :: more) (by simp)
      simpa [List.dropLast_cons_cons, Ne.symm hb] using hf
    · exact h.feedLast l (by simp [hl])
  · intro l hl
    cases rest with
    | nil => simp at hl
    | cons next rest =>
      rw [List.dropLast_cons_cons] at hl
      rcases List.mem_cons.mp hl with rfl | hl
      · have he := h.ended (c :: more) (by simp [List.dropLast_cons_cons])
        simpa [List.getLast?_cons_cons] using he
      · exact h.ended l (by simp [List.dropLast_cons_cons, hl])

theorem addToLines (b : UInt8) (h : LinesOf content ls) :
    LinesOf (b :: content) (addToLines b ls) := by
  unfold Store.addToLines
  split
  next hb => exact hb ▸ h.addFeed
  next hb =>
    cases ls with
    | nil =>
      have hc : content = [] := by simpa using h.flatten.symm
      subst hc
      exact single
    | cons line rest => exact h.addOther hb

theorem self (h : LinesOf content ls) : LinesOf ls.flatten ls :=
  ⟨rfl, h.nonempty, h.feedLast, h.ended⟩

theorem of_append_left {a b : List Bytes} (h : LinesOf content (a ++ b)) :
    LinesOf a.flatten a := by
  refine ⟨rfl, fun l hl => h.nonempty l (by simp [hl]), fun l hl => h.feedLast l (by simp [hl]), ?_⟩
  intro l hl
  refine h.ended l ?_
  cases b with
  | nil => simpa using hl
  | cons line rest =>
    rw [List.dropLast_append_of_ne_nil (by simp)]
    exact List.mem_append_left _ ((List.dropLast_sublist a).subset hl)

theorem of_append_right {a b : List Bytes} (h : LinesOf content (a ++ b)) :
    LinesOf b.flatten b := by
  refine ⟨rfl, fun l hl => h.nonempty l (by simp [hl]), fun l hl => h.feedLast l (by simp [hl]), ?_⟩
  intro l hl
  refine h.ended l ?_
  cases b with
  | nil => simp at hl
  | cons line rest =>
    rw [List.dropLast_append_of_ne_nil (by simp)]
    exact List.mem_append_right _ hl

theorem of_mem_groups {groups : List (List Bytes)} (h : LinesOf content groups.flatten) :
    ∀ g ∈ groups, LinesOf g.flatten g := by
  induction groups generalizing content with
  | nil => simp
  | cons g rest ih =>
    rw [List.flatten_cons] at h
    intro g' hg
    rcases List.mem_cons.mp hg with rfl | hg
    · exact h.of_append_left
    · exact ih h.of_append_right g' hg

end LinesOf

theorem linesOf_lines (content : Bytes) : LinesOf content (lines content) := by
  induction content with
  | nil => exact .nil
  | cons b content ih => exact ih.addToLines b

theorem addToLines_feed (ls : List Bytes) : addToLines 10 ls = [10] :: ls := by
  unfold addToLines
  exact if_pos rfl

theorem addToLines_other {b : UInt8} (h : b ≠ 10) (line : Bytes) (rest : List Bytes) :
    addToLines b (line :: rest) = (b :: line) :: rest := by
  unfold addToLines
  exact if_neg h

theorem lines_append_feed {line : Bytes} (h : (10 : UInt8) ∉ line) (content : Bytes) :
    lines (line ++ 10 :: content) = (line ++ [10]) :: lines content := by
  induction line with
  | nil => rw [List.nil_append, lines_cons, addToLines_feed, List.nil_append]
  | cons b line ih =>
    rw [List.mem_cons, not_or] at h
    rw [List.cons_append, lines_cons, ih h.2, addToLines_other (Ne.symm h.1), List.cons_append]

theorem lines_eq_single {line : Bytes} (hn : line ≠ []) (h : (10 : UInt8) ∉ line) :
    lines line = [line] := by
  induction line with
  | nil => exact absurd rfl hn
  | cons b line ih =>
    rw [List.mem_cons, not_or] at h
    cases line with
    | nil => simp [lines_cons, lines_nil, addToLines, Ne.symm h.1]
    | cons c line => rw [lines_cons, ih (by simp) h.2, addToLines_other (Ne.symm h.1)]

theorem LinesOf.lines_eq {content : Bytes} {ls : List Bytes} (h : LinesOf content ls) :
    lines content = ls := by
  induction ls generalizing content with
  | nil =>
    rw [← h.flatten]
    rfl
  | cons line rest ih =>
    have hf : (10 : UInt8) ∉ line.dropLast := h.feedLast line (by simp)
    have hr : lines rest.flatten = rest := ih (of_append_right (a := [line]) h)
    rw [← h.flatten, List.flatten_cons]
    rcases List.eq_nil_or_concat line with rfl | ⟨front, b, rfl⟩
    · exact absurd rfl (h.nonempty [] (by simp))
    · rw [List.concat_eq_append] at hf ⊢
      rw [List.dropLast_concat] at hf
      by_cases hb : b = 10
      · rw [hb, List.append_assoc, List.singleton_append, lines_append_feed hf, hr]
      · -- Only the last line may lack its line feed.
        have hlast : rest = [] := by
          cases rest with
          | nil => rfl
          | cons next rest =>
            have he := h.ended (front.concat b) (by simp)
            rw [List.concat_eq_append, List.getLast?_concat] at he
            exact absurd (Option.some.inj he) hb
        rw [hlast, List.flatten_nil, List.append_nil]
        exact lines_eq_single (by simp) (by simp [hf, Ne.symm hb])

theorem linesOf_wholeLines (content : Bytes) :
    LinesOf (wholeLines content).flatten (wholeLines content) := by
  have h := linesOf_lines content
  have hw : ∀ l ∈ wholeLines content, l ∈ lines content ∧ l.getLast? = some 10 := by
    intro l hl
    simpa [wholeLines] using hl
  exact ⟨rfl, fun l hl => h.nonempty l (hw l hl).1, fun l hl => h.feedLast l (hw l hl).1,
    fun l hl => (hw l (List.dropLast_subset _ hl)).2⟩

theorem linesOf_stream (loss : Gzip.Loss) (c : Compression) (bytes : Bytes) :
    LinesOf (stream loss c bytes).lines.flatten (stream loss c bytes).lines := by
  cases c with
  | none => exact (linesOf_lines bytes).self
  | gzip =>
    rcases hr : Gzip.read bytes with ⟨content, _ | fault⟩
    · simpa only [stream, hr] using (linesOf_lines content).self
    · simpa only [stream, hr] using linesOf_wholeLines _

end SubtreePartition.Store
