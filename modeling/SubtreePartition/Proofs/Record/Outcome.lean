import SubtreePartition.Proofs.Json.LongInteger
import SubtreePartition.Proofs.Json.Nesting
import SubtreePartition.Proofs.Record.Path

namespace SubtreePartition.Record

variable {line path payload digits : Text} {n : Nat}

def IsSplit (line path payload : Text) : Prop :=
  line = path ++ separator :: payload ∧ separator ∉ path ∧ path.head? = some Text.slash

def IsShallow (line : Text) : Prop :=
  ∀ path payload, IsSplit line path payload → Json.nesting payload ≤ Json.deepest

def IsReadOrMalformed (field line : Text) : Prop :=
  (∃ r payload, read field line = .ok r ∧ IsSplit line r.path payload) ∨
    ∃ fault, read field line = .error (.malformed line fault)

theorem IsSplit.splitLine_eq (h : IsSplit line path payload) :
    splitLine line = .ok (path, payload) := by
  obtain ⟨rfl, hb, hs⟩ := h
  rw [splitLine_append_cons hb, if_pos hs]

theorem IsSplit.unique {path' payload' : Text} (h : IsSplit line path payload)
    (h' : IsSplit line path' payload') : path = path' ∧ payload = payload' :=
  Prod.mk.inj (Except.ok.inj (h.splitLine_eq.symm.trans h'.splitLine_eq))

theorem isShallow_of_plain (h : IsSplit line path payload)
    (hp : ∀ c ∈ payload, c ∉ [34, 91, 93, 123, 125]) : IsShallow line := by
  intro path' payload' h'
  obtain ⟨-, rfl⟩ := h.unique h'
  rw [Json.nesting, Json.nestingFrom_of_plain hp]
  exact Nat.zero_le _

theorem splitLine_cases (line : Text) :
    (∃ path payload, IsSplit line path payload) ∨
      ∃ fault, splitLine line = .error (.malformed line fault) := by
  by_cases hm : separator ∈ line
  · obtain ⟨path, payload, rfl, hb⟩ := List.eq_append_cons_of_mem hm
    by_cases hs : path.head? = some Text.slash
    · exact .inl ⟨path, payload, rfl, hb, hs⟩
    · exact .inr ⟨.relativePath, by rw [splitLine_append_cons hb, if_neg hs]⟩
  · exact .inr ⟨.noSeparator, splitLine_of_not_mem hm⟩

theorem read_of_splitLine_error {field : Text} {fault : LineFault}
    (h : splitLine line = .error (.malformed line fault)) :
    read field line = .error (.malformed line fault) := by
  rw [read, h]
  rfl

theorem read_of_split (h : IsSplit line path payload) (field : Text) :
    read field line =
      match Json.read payload with
      | .error (.longInteger n) => .error (.longInteger n)
      | .error fault => .error (.malformed line (.attributes fault))
      | .ok (.object members) =>
          .ok { path := path, category := categoryOf (Json.member? field members) }
      | .ok _ => .error (.malformed line .notAnObject) := by
  rw [read, h.splitLine_eq]
  rfl

theorem read_of_longInteger (h : IsSplit line path payload)
    (hp : Json.read payload = .error (.longInteger n)) (field : Text) :
    read field line = .error (.longInteger n) := by
  rw [read_of_split h, hp]

theorem isReadOrMalformed_of_split (h : IsSplit line path payload)
    (hp : ∀ n, Json.read payload ≠ .error (.longInteger n)) (field : Text) :
    IsReadOrMalformed field line := by
  have hread := read_of_split h field
  split at hread
  next n hlong => exact absurd hlong (hp n)
  next => exact .inr ⟨_, hread⟩
  next => exact .inl ⟨_, payload, hread, h⟩
  next => exact .inr ⟨_, hread⟩

theorem not_isReadOrMalformed {field : Text} (h : read field line = .error (.longInteger n)) :
    ¬ IsReadOrMalformed field line := by
  rintro (⟨r, payload, hread, -⟩ | ⟨fault, hread⟩)
  · rw [h] at hread
    cases hread
  · rw [h] at hread
    cases hread

theorem read_eq_ok_iff {field : Text} :
    (∃ r, read field line = .ok r) ↔ ∃ path payload members, IsSplit line path payload ∧
      Json.read payload = .ok (.object members) := by
  constructor
  · rintro ⟨r, hr⟩
    rcases splitLine_cases line with ⟨path, payload, h⟩ | ⟨fault, h⟩
    · have hread := read_of_split h field
      rw [hr] at hread
      split at hread
      next => cases hread
      next => cases hread
      next members hp => exact ⟨path, payload, members, h, hp⟩
      next => cases hread
    · rw [read_of_splitLine_error h] at hr
      cases hr
  · rintro ⟨path, payload, members, h, hp⟩
    exact ⟨_, by rw [read_of_split h, hp]⟩

/-- How the reading of a line ends: only an integer with more digits than are read keeps it from
being read or refused as a record, and attributes that are such an integer do. -/
structure ReadsOrRefuses (field line : Text) : Prop where
  settled : IsReadOrMalformed field line ↔ ∀ path payload n, IsSplit line path payload →
    Json.read payload ≠ .error (.longInteger n)
  record : (∃ r, read field line = .ok r) ↔ ∃ path payload members, IsSplit line path payload ∧
    Json.read payload = .ok (.object members)
  long : ∀ path payload n, IsSplit line path payload →
    Json.read payload = .error (.longInteger n) →
    read field line = .error (.longInteger n) ∧ Json.HasLongInteger payload n
  digits : ∀ path digits, IsSplit line path digits → Text.longestNumeral < digits.length →
    (∀ c ∈ digits, Text.isDigit c = true) → digits.head? ≠ some 48 →
    read field line = .error (.longInteger digits.length)

theorem read_outcome (field line : Text) (_ : IsShallow line) : ReadsOrRefuses field line where
  settled := by
    constructor
    · intro hread path payload n h hp
      exact not_isReadOrMalformed (read_of_longInteger h hp field) hread
    · intro hp
      rcases splitLine_cases line with ⟨path, payload, h⟩ | ⟨fault, h⟩
      · exact isReadOrMalformed_of_split h (fun n => hp path payload n h) field
      · exact .inr ⟨fault, read_of_splitLine_error h⟩
  record := read_eq_ok_iff
  long := fun _ _ _ h hp => ⟨read_of_longInteger h hp field, Json.hasLongInteger_of_read hp⟩
  digits := fun _ _ h hn hd hzero => read_of_longInteger h (Json.read_digits hn hd hzero) field

def longRow : Text :=
  List.replicate (Text.longestNumeral + 1) 49

theorem isDigit_longRow : ∀ c ∈ longRow, Text.isDigit c = true := by
  intro c hc
  rw [List.eq_of_mem_replicate hc]
  rfl

theorem length_longRow : longRow.length = Text.longestNumeral + 1 :=
  List.length_replicate

theorem lt_length_longRow : Text.longestNumeral < longRow.length := by
  rw [length_longRow]
  exact Nat.lt_succ_self _

theorem head?_longRow : longRow.head? ≠ some 48 := by
  rw [longRow, List.replicate_succ, List.head?_cons]
  decide

def longLine : Text :=
  "/a" ++ separator :: longRow

theorem isSplit_longLine : IsSplit longLine "/a" longRow :=
  ⟨rfl, by decide, by decide⟩

theorem isShallow_longLine : IsShallow longLine := by
  refine isShallow_of_plain isSplit_longLine fun c hc => ?_
  rw [List.eq_of_mem_replicate hc]
  decide

theorem isShallow_shortLine : IsShallow "/a|1" :=
  have hsplit : IsSplit "/a|1" "/a" "1" := ⟨rfl, by decide, by decide⟩
  isShallow_of_plain hsplit (by decide)

theorem read_outcome_longLine :
    IsReadOrMalformed defaultField "/a|1" ∧
      read defaultField longLine = .error (.longInteger (Text.longestNumeral + 1)) := by
  constructor
  · have hshort := read_outcome defaultField "/a|1" isShallow_shortLine
    refine hshort.settled.mpr fun path payload n hsplit hp => ?_
    have hlong := (hshort.long path payload n hsplit hp).2.lt_length
    have hlength := congrArg List.length hsplit.1
    rw [List.length_append, List.length_cons] at hlength
    have hlimit : ("/a|1" : Text).length ≤ Text.longestNumeral := by decide
    omega
  · rw [← length_longRow]
    exact (read_outcome defaultField longLine isShallow_longLine).digits "/a" longRow isSplit_longLine
      lt_length_longRow isDigit_longRow head?_longRow

theorem not_isReadOrMalformed_longLine : ¬ IsReadOrMalformed defaultField longLine := by
  have hpayload := Json.read_digits lt_length_longRow isDigit_longRow head?_longRow
  exact not_isReadOrMalformed (read_of_longInteger isSplit_longLine hpayload defaultField)

end SubtreePartition.Record
