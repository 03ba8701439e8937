import SubtreePartition.Proofs.Text.Escape

namespace SubtreePartition.Utf8

variable {a : UInt8} {c : CodePoint} {bytes left more rest : Bytes} {t u done : Text}
  {n position : Nat}
  {defect : Defect}

def IsText (bytes : Bytes) : Prop :=
  ∃ t : Text, t.IsScalar ∧ encode t = bytes

theorem encode_append (t u : Text) : encode (t ++ u) = encode t ++ encode u :=
  List.flatMap_append

theorem one_le_length_encodeCodePoint (c : CodePoint) : 1 ≤ (encodeCodePoint c).length := by
  rw [encodeCodePoint_eq]
  split_ifs <;> simp

theorem length_le_encode (t : Text) : t.length ≤ (encode t).length := by
  induction t with
  | nil => exact Nat.zero_le _
  | cons c t ih =>
    have hc := one_le_length_encodeCodePoint c
    rw [encode_cons, List.length_append, List.length_cons]
    omega

theorem encode_eq_nil_iff : encode t = [] ↔ t = [] := by
  constructor
  · intro h
    have hl := length_le_encode t
    rw [h, List.length_nil] at hl
    exact List.eq_nil_of_length_eq_zero (Nat.le_zero.mp hl)
  · rintro rfl
    rfl

theorem encode_inj_of_isScalar (ht : t.IsScalar) (hu : u.IsScalar) (h : encode t = encode u) :
    t = u := by
  rw [← decode_encode ht, h, decode_encode hu]

theorem isText_cons_iff :
    IsText (a :: rest) ↔ ∃ c tail more, rest = tail ++ more ∧
      character? (a :: rest) = some (c, tail.length) ∧ IsText more := by
  constructor
  · rintro ⟨t, ht, he⟩
    cases t with
    | nil => cases he
    | cons c t =>
      obtain ⟨hc, ht⟩ := Text.isScalar_cons.mp ht
      obtain ⟨b, tail, hw, hr⟩ := character?_encodeCodePoint hc (encode t)
      rw [encode_cons, hw] at he
      obtain ⟨rfl, rfl⟩ := List.cons.inj he
      exact ⟨c, tail, encode t, rfl, hr, t, ht, rfl⟩
  · rintro ⟨c, tail, more, rfl, hr, t, ht, rfl⟩
    obtain ⟨tail', more', he, hl, hw, hc⟩ := exists_of_character? hr
    obtain ⟨rfl, rfl⟩ := List.append_inj he hl.symm
    exact ⟨c :: t, Text.isScalar_cons.mpr ⟨hc, ht⟩, by rw [encode_cons, hw]; rfl⟩

theorem isText_codePoint_append (hc : c.isValidChar) :
    IsText (encodeCodePoint c ++ rest) ↔ IsText rest := by
  obtain ⟨a, tail, hw, hr⟩ := character?_encodeCodePoint hc rest
  rw [hw, List.cons_append, isText_cons_iff]
  constructor
  · rintro ⟨c', tail', more, he, hr', ht⟩
    obtain ⟨-, hl⟩ := Prod.mk.inj (Option.some.inj (hr.symm.trans hr'))
    obtain ⟨rfl, rfl⟩ := List.append_inj he hl
    exact ht
  · intro ht
    exact ⟨c, tail, rest, rfl, hr, ht⟩

theorem isText_encode_append (ht : t.IsScalar) : IsText (encode t ++ bytes) ↔ IsText bytes := by
  induction t with
  | nil => rfl
  | cons c t ih =>
    obtain ⟨hc, ht⟩ := Text.isScalar_cons.mp ht
    rw [encode_cons, List.append_assoc, isText_codePoint_append hc]
    exact ih ht

theorem partFrom_skip (done : Text) (position : Nat) (skipped rest : Bytes) :
    partFrom done position skipped.length (skipped ++ rest) =
      partFrom done (position + skipped.length) 0 rest := by
  induction skipped generalizing position with
  | nil => rfl
  | cons b skipped ih =>
    rw [List.cons_append, List.length_cons, partFrom, ih, Nat.add_assoc, Nat.add_comm 1]

theorem partFrom_character {tail : Bytes}
    (h : character? (a :: (tail ++ more)) = some (c, tail.length)) (done : Text) (position : Nat) :
    partFrom done position 0 (a :: (tail ++ more)) =
      partFrom (c :: done) (position + 1 + tail.length) 0 more := by
  rw [partFrom, h]
  exact partFrom_skip _ _ _ _

theorem partFrom_eq_ok (hd : Decodes bytes t)
    (h : partFrom done position 0 bytes = .ok (u, left)) :
    ∃ v : Text, u = done.reverse ++ v ∧ v.IsScalar ∧ bytes = encode v ++ left ∧
      character? left = none := by
  induction hd generalizing done position with
  | nil =>
    cases h
    exact ⟨[], (List.append_nil _).symm, nofun, rfl, rfl⟩
  | @character a tail more c t read written valid _ ih =>
    rw [partFrom_character read] at h
    obtain ⟨v, rfl, hv, rfl, hn⟩ := ih h
    refine ⟨c :: v, by simp, Text.isScalar_cons.mpr ⟨valid, hv⟩, ?_, hn⟩
    rw [encode_cons, written, List.append_assoc]
    rfl
  | escape alone _ _ =>
    rw [partFrom, alone] at h
    dsimp only at h
    split at h
    next =>
      cases h
      exact ⟨[], (List.append_nil _).symm, nofun, rfl, alone⟩
    next => cases h

theorem strictFrom_skip (done : Text) (position : Nat) (skipped rest : Bytes) :
    strictFrom done position skipped.length (skipped ++ rest) =
      strictFrom done (position + skipped.length) 0 rest := by
  induction skipped generalizing position with
  | nil => rfl
  | cons b skipped ih =>
    rw [List.cons_append, List.length_cons, strictFrom, ih, Nat.add_assoc, Nat.add_comm 1]

theorem strictFrom_character {tail : Bytes}
    (h : character? (a :: (tail ++ more)) = some (c, tail.length)) (done : Text) (position : Nat) :
    strictFrom done position 0 (a :: (tail ++ more)) =
      strictFrom (c :: done) (position + 1 + tail.length) 0 more := by
  rw [strictFrom, h]
  exact strictFrom_skip _ _ _ _

theorem strictFrom_eq_ok (hd : Decodes bytes t) (h : strictFrom done position 0 bytes = .ok u) :
    u = done.reverse ++ t ∧ t.IsScalar := by
  induction hd generalizing done position with
  | nil =>
    cases h
    exact ⟨(List.append_nil _).symm, nofun⟩
  | @character a tail more c t read _ valid _ ih =>
    rw [strictFrom_character read] at h
    obtain ⟨rfl, ht⟩ := ih h
    exact ⟨by simp, Text.isScalar_cons.mpr ⟨valid, ht⟩⟩
  | escape alone _ _ =>
    rw [strictFrom, alone] at h
    cases h

theorem strictFrom_encode (ht : t.IsScalar) (done : Text) (position : Nat) :
    strictFrom done position 0 (encode t) = .ok (done.reverse ++ t) := by
  induction t generalizing done position with
  | nil => simp [encode, strictFrom]
  | cons c t ih =>
    obtain ⟨hc, ht⟩ := Text.isScalar_cons.mp ht
    obtain ⟨a, tail, hw, hr⟩ := character?_encodeCodePoint hc (encode t)
    rw [encode_cons, hw, List.cons_append, strictFrom_character hr, ih ht]
    simp

theorem decodeStrict_eq_ok_iff : decodeStrict bytes = .ok t ↔ t.IsScalar ∧ encode t = bytes := by
  constructor
  · intro h
    obtain ⟨rfl, ht⟩ := strictFrom_eq_ok (decodes_decode bytes) h
    exact ⟨ht, encode_decode bytes⟩
  · rintro ⟨ht, rfl⟩
    exact strictFrom_encode ht [] 0

end SubtreePartition.Utf8
