import SubtreePartition.Proofs.Ancestry.Enter
import SubtreePartition.Proofs.Pass.Dealing
import SubtreePartition.Proofs.Pass.Visits

namespace SubtreePartition

theorem Ancestry.enter_lenient {mode : OrderMode} {a a' : Ancestry} {r : Record}
    (h : a.enter mode r = (a', none)) : a.enter .lenient r = (a', none) := by
  rcases enter_ok_cases h with ⟨hs, rfl⟩ | ⟨front, last, hs, -, rfl⟩
  · exact enter_root .lenient a hs
  · rw [enter_child .lenient a hs, if_neg (by simp)]

namespace Pass

variable {p : Pass} {a : Ancestry} {raw : Bytes} {lines : List Bytes}

def lenient (p : Pass) : Pass :=
  { p with mode := .lenient }

theorem accept_lenient {next : Ancestry × Item} (h : p.accept a raw = .ok next) :
    p.lenient.accept a raw = .ok next := by
  unfold accept at h ⊢
  split at h
  next => cases h
  next r hr =>
    have hr' : Record.ofRaw p.lenient.field raw = .ok r := hr
    rw [hr']
    rcases he : a.enter p.mode r with ⟨a', _ | fault⟩
    · rw [he] at h
      have hl : a.enter p.lenient.mode r = (a', none) := Ancestry.enter_lenient he
      simp only [hl]
      exact h
    · rw [he] at h
      cases h

theorem accept_lenient_malformed {fault : RecordFault}
    (h : p.accept a raw = .error (.malformed fault)) :
    p.lenient.accept a raw = .error (.malformed fault) := by
  unfold accept at h ⊢
  split at h
  next fault' hr =>
    have hr' : Record.ofRaw p.lenient.field raw = .error fault' := hr
    rw [hr']
    exact h
  next r hr =>
    split at h
    · cases h
    · cases h

theorem acceptFrom_lenient (p : Pass) (a : Ancestry) (lines : List Bytes) :
    p.lenient.acceptFrom [] a lines = p.acceptFrom [] a lines ∨
      ∃ u more, (p.acceptFrom [] a lines).2 = some (.unsorted u) ∧
        (p.lenient.acceptFrom [] a lines).1 = (p.acceptFrom [] a lines).1 ++ more := by
  induction lines generalizing a with
  | nil => exact .inl rfl
  | cons raw rest ih =>
    rw [acceptFrom_cons, acceptFrom_cons]
    cases ha : p.accept a raw with
    | error rejection =>
      cases rejection with
      | malformed fault =>
        rw [accept_lenient_malformed ha]
        exact .inl rfl
      | unsorted u => exact .inr ⟨u, _, rfl, (List.nil_append _).symm⟩
    | ok next =>
      simp only [accept_lenient ha]
      rcases ih next.1 with hsame | ⟨u, more, hu, hmore⟩
      · exact .inl (by rw [hsame])
      · exact .inr ⟨u, more, hu, by rw [hmore, List.cons_append]⟩

theorem acceptAll_lenient (p : Pass) (lines : List Bytes) :
    p.lenient.acceptAll lines = p.acceptAll lines ∨
      ∃ u more, (p.acceptAll lines).2 = some (.unsorted u) ∧
        (p.lenient.acceptAll lines).1 = (p.acceptAll lines).1 ++ more :=
  p.acceptFrom_lenient [] lines

theorem items_prefix_lenient (p : Pass) (lines : List Bytes) :
    (p.acceptAll lines).1 <+: (p.lenient.acceptAll lines).1 := by
  rcases p.acceptAll_lenient lines with hsame | ⟨_, more, -, hmore⟩
  · exact hsame.symm ▸ List.prefix_refl _
  · rw [hmore]
    exact List.prefix_append _ _

theorem deal_append {planner : Planner} {items : List Item} {front : List (List Bytes)}
    {last : List Bytes} (h : deal planner items = front ++ [last]) (later : List Item) :
    ∃ extra more, deal planner (items ++ later) = front ++ (last ++ extra) :: more := by
  induction later using List.reverseRecOn with
  | nil => exact ⟨[], [], by rw [List.append_nil, List.append_nil, h]⟩
  | append_singleton later item ih =>
    obtain ⟨extra, more, hd⟩ := ih
    rw [← List.append_assoc]
    rcases List.eq_nil_or_concat more with rfl | ⟨more, draft, rfl⟩
    · rw [deal_concat item hd]
      split
      · exact ⟨extra, [[item.raw]], rfl⟩
      · exact ⟨extra ++ [item.raw], [], by rw [List.append_assoc]⟩
    · rw [List.concat_eq_append, ← List.cons_append, ← List.append_assoc] at hd
      rw [deal_concat item hd]
      split
      · exact ⟨extra, more ++ [draft, [item.raw]], by simp⟩
      · exact ⟨extra, more ++ [draft ++ [item.raw]], by simp⟩

end Pass

end SubtreePartition
