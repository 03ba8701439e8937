import SubtreePartition.Pass

namespace SubtreePartition.Pass

variable {p : Pass} {a : Ancestry} {lines : List Bytes}

structure Visit where
  raw : Bytes
  record : Record
  chain : Ancestry

def Visit.item (v : Visit) : Item :=
  ⟨v.raw, v.chain.categories⟩

def visitsFrom (p : Pass) : Ancestry → List Bytes → List Visit
  | _, [] => []
  | a, raw :: rest =>
      match Record.ofRaw p.field raw with
      | .error _ => []
      | .ok r =>
          match a.enter p.mode r with
          | (_, some _) => []
          | (a, none) => ⟨raw, r, a⟩ :: visitsFrom p a rest

def visits (p : Pass) (lines : List Bytes) : List Visit :=
  p.visitsFrom [] lines

def records (p : Pass) (lines : List Bytes) : List Record :=
  lines.filterMap fun raw => (Record.ofRaw p.field raw).toOption

def recordAt (p : Pass) (lines : List Bytes) (i : Nat) : Option Record :=
  lines[i]?.bind fun raw => (Record.ofRaw p.field raw).toOption

theorem acceptFrom_cons (p : Pass) (a : Ancestry) (raw : Bytes) (rest : List Bytes) :
    p.acceptFrom [] a (raw :: rest) =
      match p.accept a raw with
      | .error rejection => ([], some rejection)
      | .ok (a, item) => (item :: (p.acceptFrom [] a rest).1, (p.acceptFrom [] a rest).2) := by
  rw [acceptFrom]
  cases p.accept a raw with
  | error rejection => rfl
  | ok next =>
    have h := p.acceptFrom_append [next.2] [] next.1 rest
    simpa using h

theorem acceptFrom_cases (p : Pass) (a : Ancestry) (raw : Bytes) (rest : List Bytes) :
    (p.visitsFrom a (raw :: rest) = [] ∧
        ∃ rejection, p.acceptFrom [] a (raw :: rest) = ([], some rejection)) ∨
      ∃ r a', Record.ofRaw p.field raw = .ok r ∧ a.enter p.mode r = (a', none) ∧
        p.visitsFrom a (raw :: rest) = ⟨raw, r, a'⟩ :: p.visitsFrom a' rest ∧
        p.acceptFrom [] a (raw :: rest) =
          (Visit.item ⟨raw, r, a'⟩ :: (p.acceptFrom [] a' rest).1,
            (p.acceptFrom [] a' rest).2) := by
  rw [acceptFrom_cons]
  cases hr : Record.ofRaw p.field raw with
  | error fault =>
    exact .inl ⟨by simp [visitsFrom, hr], .malformed fault, by simp only [accept, hr]⟩
  | ok r =>
    rcases he : a.enter p.mode r with ⟨a', fault⟩
    cases fault with
    | some fault =>
      exact .inl ⟨by simp [visitsFrom, hr, he], .unsorted fault, by simp only [accept, hr, he]⟩
    | none =>
      refine .inr ⟨r, a', rfl, he, by simp [visitsFrom, hr, he], ?_⟩
      simp only [accept, hr, he]
      rfl

theorem acceptFrom_fst (p : Pass) (a : Ancestry) (lines : List Bytes) :
    (p.acceptFrom [] a lines).1 = (p.visitsFrom a lines).map Visit.item := by
  induction lines generalizing a with
  | nil => rfl
  | cons raw rest ih =>
    rcases p.acceptFrom_cases a raw rest with ⟨hv, _, ha⟩ | ⟨r, a', -, -, hv, ha⟩
    · rw [hv, ha, List.map_nil]
    · rw [hv, ha, List.map_cons, ih]

theorem acceptAll_fst (p : Pass) (lines : List Bytes) :
    (p.acceptAll lines).1 = (p.visits lines).map Visit.item :=
  p.acceptFrom_fst [] lines

theorem map_raw_acceptAll (p : Pass) (lines : List Bytes) :
    (p.acceptAll lines).1.map Item.raw = (p.visits lines).map Visit.raw := by
  rw [acceptAll_fst, List.map_map]
  rfl

theorem length_visits (p : Pass) (lines : List Bytes) :
    (p.visits lines).length = (p.acceptAll lines).1.length := by
  rw [acceptAll_fst, List.length_map]

theorem map_raw_visitsFrom (h : (p.acceptFrom [] a lines).2 = none) :
    (p.visitsFrom a lines).map Visit.raw = lines := by
  induction lines generalizing a with
  | nil => rfl
  | cons raw rest ih =>
    rcases p.acceptFrom_cases a raw rest with ⟨-, rejection, ha⟩ | ⟨r, a', -, -, hv, ha⟩
    · rw [ha] at h
      cases h
    · rw [ha] at h
      rw [hv, List.map_cons, ih h]

theorem map_raw_visits (h : (p.acceptAll lines).2 = none) :
    (p.visits lines).map Visit.raw = lines :=
  map_raw_visitsFrom h

theorem map_ofRaw_visitsFrom (h : (p.acceptFrom [] a lines).2 = none) :
    lines.map (Record.ofRaw p.field) = ((p.visitsFrom a lines).map Visit.record).map .ok := by
  induction lines generalizing a with
  | nil => rfl
  | cons raw rest ih =>
    rcases p.acceptFrom_cases a raw rest with ⟨-, rejection, ha⟩ | ⟨r, a', hr, -, hv, ha⟩
    · rw [ha] at h
      cases h
    · rw [ha] at h
      rw [hv, List.map_cons, hr, ih h]
      rfl

theorem map_record_visits (h : (p.acceptAll lines).2 = none) :
    (p.visits lines).map Visit.record = p.records lines := by
  have hr := map_ofRaw_visitsFrom h
  calc
    (p.visits lines).map Visit.record
        = (((p.visits lines).map Visit.record).map .ok).filterMap
            (Except.toOption : Except RecordFault Record → Option Record) := by
      simp [List.filterMap_map, Except.toOption, Function.comp_def]
    _ = (lines.map (Record.ofRaw p.field)).filterMap Except.toOption := by
      rw [hr]
      rfl
    _ = p.records lines := List.filterMap_map

theorem map_ofRaw (h : (p.acceptAll lines).2 = none) :
    lines.map (Record.ofRaw p.field) = (p.records lines).map .ok := by
  rw [← map_record_visits h]
  exact map_ofRaw_visitsFrom h

theorem getElem?_visitsFrom {k : Nat} {v : Visit} (h : (p.visitsFrom a lines)[k]? = some v) :
    p.recordAt lines k = some v.record ∧ lines[k]? = some v.raw := by
  induction lines generalizing a k with
  | nil => simp [visitsFrom] at h
  | cons raw rest ih =>
    rcases p.acceptFrom_cases a raw rest with ⟨hv, -⟩ | ⟨r, a', hr, -, hv, -⟩
    · simp [hv] at h
    · rw [hv] at h
      cases k with
      | zero =>
        obtain rfl : ⟨raw, r, a'⟩ = v := by simpa using h
        simp [recordAt, hr, Except.toOption]
      | succ k => simpa [recordAt] using ih (by simpa using h)

theorem recordAt_of_visit {k : Nat} {v : Visit} (h : (p.visits lines)[k]? = some v) :
    p.recordAt lines k = some v.record :=
  (getElem?_visitsFrom h).1

theorem exists_visit {k : Nat} {r : Record} (hk : k < (p.acceptAll lines).1.length)
    (hr : p.recordAt lines k = some r) :
    ∃ v, (p.visits lines)[k]? = some v ∧ v.record = r := by
  rw [← length_visits] at hk
  have hv := List.getElem?_eq_getElem hk
  exact ⟨_, hv, Option.some.inj ((recordAt_of_visit hv).symm.trans hr)⟩

theorem exists_visit_of_le {i j : Nat} (hij : i ≤ j) {w : Visit}
    (hw : (p.visits lines)[j]? = some w) : ∃ v, (p.visits lines)[i]? = some v := by
  obtain ⟨hlt, -⟩ := List.getElem?_eq_some_iff.mp hw
  exact ⟨_, List.getElem?_eq_getElem (by omega)⟩

theorem length_acceptAll (h : (p.acceptAll lines).2 = none) :
    (p.acceptAll lines).1.length = lines.length := by
  rw [← length_visits, ← List.length_map Visit.raw, map_raw_visits h]

theorem acceptFrom_rejected {rejection : Rejection}
    (h : (p.acceptFrom [] a lines).2 = some rejection) :
    ∃ front raw rest, lines = front ++ raw :: rest ∧
      p.acceptFrom [] a front = ((p.acceptFrom [] a lines).1, none) ∧
      p.acceptFrom [] a (front ++ [raw]) = p.acceptFrom [] a lines := by
  induction lines generalizing a with
  | nil => cases h
  | cons raw rest ih =>
    rw [acceptFrom_cons] at h ⊢
    cases ha : p.accept a raw with
    | error fault =>
      refine ⟨[], raw, rest, rfl, rfl, ?_⟩
      rw [List.nil_append, acceptFrom_cons, ha]
    | ok next =>
      simp only [ha] at h
      obtain ⟨front, stop, more, hl, hfront, hstop⟩ := ih h
      refine ⟨raw :: front, stop, more, by rw [hl, List.cons_append], ?_, ?_⟩
      · rw [acceptFrom_cons, ha]
        simp only [hfront]
      · rw [List.cons_append, acceptFrom_cons, ha]
        simp only [hstop]

theorem exists_rejected {rejection : Rejection} (h : (p.acceptAll lines).2 = some rejection) :
    ∃ front raw rest, lines = front ++ raw :: rest ∧
      p.acceptAll front = ((p.acceptAll lines).1, none) ∧
      p.acceptAll (front ++ [raw]) = p.acceptAll lines :=
  acceptFrom_rejected h

theorem lt_length_of_recordAt {k : Nat} {r : Record} (h : p.recordAt lines k = some r) :
    k < lines.length := by
  obtain ⟨raw, hraw, -⟩ := Option.bind_eq_some_iff.mp h
  exact (List.getElem?_eq_some_iff.mp hraw).1

theorem enter_first {v : Visit} (h : (p.visitsFrom a lines)[0]? = some v) :
    a.enter p.mode v.record = (v.chain, none) := by
  cases lines with
  | nil => simp [visitsFrom] at h
  | cons raw rest =>
    rcases p.acceptFrom_cases a raw rest with ⟨hv, -⟩ | ⟨r, a', -, he, hv, -⟩
    · simp [hv] at h
    · obtain rfl : ⟨raw, r, a'⟩ = v := by simpa [hv] using h
      exact he

theorem enter_next {k : Nat} {v w : Visit} (hv : (p.visitsFrom a lines)[k]? = some v)
    (hw : (p.visitsFrom a lines)[k + 1]? = some w) :
    v.chain.enter p.mode w.record = (w.chain, none) := by
  induction lines generalizing a k with
  | nil => simp [visitsFrom] at hv
  | cons raw rest ih =>
    rcases p.acceptFrom_cases a raw rest with ⟨he, -⟩ | ⟨r, a', -, -, he, -⟩
    · simp [he] at hv
    · rw [he] at hv hw
      cases k with
      | zero =>
        obtain rfl : ⟨raw, r, a'⟩ = v := by simpa using hv
        exact enter_first (by simpa using hw)
      | succ k => exact ih (by simpa using hv) (by simpa using hw)

theorem exists_enter {k : Nat} {v : Visit} (h : (p.visits lines)[k]? = some v) :
    ∃ a : Ancestry, a.enter p.mode v.record = (v.chain, none) := by
  cases k with
  | zero => exact ⟨[], enter_first h⟩
  | succ k =>
    obtain ⟨v', hv⟩ := exists_visit_of_le (Nat.le_succ k) h
    exact ⟨v'.chain, enter_next hv h⟩

end SubtreePartition.Pass
