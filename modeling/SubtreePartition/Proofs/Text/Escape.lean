import Mathlib.Tactic.SplitIfs
import SubtreePartition.Proofs.Text.Utf8

namespace SubtreePartition

namespace Utf8

variable {a b : UInt8} {c : CodePoint} {bytes x y rest : Bytes} {t : Text} {n : Nat}

theorem ofNat_eq (h : n = a.toNat) : UInt8.ofNat n = a := by
  rw [h, UInt8.ofNat_toNat]

theorem isSecond_eq (a b : UInt8) :
    isSecond a b =
      if a.toNat = 0xE0 then decide (0xA0 ≤ b.toNat ∧ b.toNat ≤ 0xBF)
      else if a.toNat = 0xED then decide (0x80 ≤ b.toNat ∧ b.toNat ≤ 0x9F)
      else if a.toNat = 0xF0 then decide (0x90 ≤ b.toNat ∧ b.toNat ≤ 0xBF)
      else if a.toNat = 0xF4 then decide (0x80 ≤ b.toNat ∧ b.toNat ≤ 0x8F)
      else decide (0x80 ≤ b.toNat ∧ b.toNat ≤ 0xBF) := by
  simp [isSecond, isTail, ← UInt8.toNat_inj, UInt8.le_iff_toNat_le]

theorem bounds_of_isSecond (h : isSecond a b = true) :
    (0x80 ≤ b.toNat ∧ b.toNat ≤ 0xBF) ∧ (a.toNat = 0xE0 → 0xA0 ≤ b.toNat) ∧
      (a.toNat = 0xED → b.toNat ≤ 0x9F) ∧ (a.toNat = 0xF0 → 0x90 ≤ b.toNat) ∧
      (a.toNat = 0xF4 → b.toNat ≤ 0x8F) := by
  rw [isSecond_eq] at h
  split_ifs at h <;>
    · have := of_decide_eq_true h
      omega

theorem encodeCodePoint_eq (c : Nat) :
    encodeCodePoint c =
      if 0xDC80 ≤ c ∧ c ≤ 0xDCFF then [UInt8.ofNat (c - 0xDC00)]
      else if c < 0x80 then [UInt8.ofNat c]
      else if c < 0x800 then [UInt8.ofNat (0xC0 + c / 0x40), UInt8.ofNat (0x80 + c % 0x40)]
      else if c < 0x10000 then
        [UInt8.ofNat (0xE0 + c / 0x1000), UInt8.ofNat (0x80 + c / 0x40 % 0x40),
          UInt8.ofNat (0x80 + c % 0x40)]
      else
        [UInt8.ofNat (0xF0 + c / 0x40000), UInt8.ofNat (0x80 + c / 0x1000 % 0x40),
          UInt8.ofNat (0x80 + c / 0x40 % 0x40), UInt8.ofNat (0x80 + c % 0x40)] := by
  simp only [encodeCodePoint, Bool.and_eq_true, decide_eq_true_eq]

theorem encodeCodePoint_one (h : a.toNat < 0x80) : encodeCodePoint a.toNat = [a] := by
  rw [encodeCodePoint_eq, if_neg (by omega), if_pos h, UInt8.ofNat_toNat]

theorem encodeCodePoint_two (hn : n = a.toNat % 0x20 * 0x40 + b.toNat % 0x40)
    (ha : 0xC2 ≤ a.toNat ∧ a.toNat ≤ 0xDF) (hb : isTail b = true) :
    encodeCodePoint n = [a, b] ∧ n.isValidChar := by
  rw [isTail_iff] at hb
  refine ⟨?_, .inl (by omega)⟩
  rw [encodeCodePoint_eq, if_neg (by omega), if_neg (by omega), if_pos (by omega),
    ofNat_eq (a := a) (by omega), ofNat_eq (a := b) (by omega)]

theorem encodeCodePoint_three {d : UInt8}
    (hn : n = a.toNat % 0x10 * 0x1000 + b.toNat % 0x40 * 0x40 + d.toNat % 0x40)
    (ha : 0xE0 ≤ a.toNat ∧ a.toNat ≤ 0xEF) (hb : isSecond a b = true) (hd : isTail d = true) :
    encodeCodePoint n = [a, b, d] ∧ n.isValidChar := by
  obtain ⟨hb, hE0, hED, -, -⟩ := bounds_of_isSecond hb
  rw [isTail_iff] at hd
  have hvalid : n < 0xD800 ∨ 0xDFFF < n ∧ n < 0x110000 := by omega
  refine ⟨?_, hvalid⟩
  rw [encodeCodePoint_eq, if_neg (by omega), if_neg (by omega), if_neg (by omega),
    if_pos (by omega), ofNat_eq (a := a) (by omega), ofNat_eq (a := b) (by omega),
    ofNat_eq (a := d) (by omega)]

theorem encodeCodePoint_four {d e : UInt8}
    (hn : n = a.toNat % 0x08 * 0x40000 + b.toNat % 0x40 * 0x1000 + d.toNat % 0x40 * 0x40 +
      e.toNat % 0x40)
    (ha : 0xF0 ≤ a.toNat ∧ a.toNat ≤ 0xF4) (hb : isSecond a b = true) (hd : isTail d = true)
    (he : isTail e = true) : encodeCodePoint n = [a, b, d, e] ∧ n.isValidChar := by
  obtain ⟨hb, -, -, hF0, hF4⟩ := bounds_of_isSecond hb
  rw [isTail_iff] at hd he
  refine ⟨?_, .inr (by omega)⟩
  rw [encodeCodePoint_eq, if_neg (by omega), if_neg (by omega), if_neg (by omega),
    if_neg (by omega), ofNat_eq (a := a) (by omega), ofNat_eq (a := b) (by omega),
    ofNat_eq (a := d) (by omega), ofNat_eq (a := e) (by omega)]

theorem tailLength_eq_some (h : tailLength a = some n) :
    (n = 0 ∧ a.toNat < 0x80) ∨ (n = 1 ∧ 0xC2 ≤ a.toNat ∧ a.toNat ≤ 0xDF) ∨
      (n = 2 ∧ 0xE0 ≤ a.toNat ∧ a.toNat ≤ 0xEF) ∨ (n = 3 ∧ 0xF0 ≤ a.toNat ∧ a.toNat ≤ 0xF4) := by
  rw [tailLength_eq] at h
  split_ifs at h <;>
    · have := Option.some.inj h
      omega

theorem exists_of_character? (h : character? (a :: rest) = some (c, n)) :
    ∃ tail more, rest = tail ++ more ∧ tail.length = n ∧ encodeCodePoint c = a :: tail ∧
      c.isValidChar := by
  unfold character? at h
  dsimp only at h
  split at h
  next hl =>
    obtain ⟨rfl, rfl⟩ := Prod.mk.inj (Option.some.inj h)
    have ha := tailLength_eq_some hl
    exact ⟨[], _, rfl, rfl, encodeCodePoint_one (by omega), .inl (by omega)⟩
  next b more hl =>
    split at h
    next hb =>
      obtain ⟨rfl, rfl⟩ := Prod.mk.inj (Option.some.inj h)
      have ha := tailLength_eq_some hl
      have hc := encodeCodePoint_two (a := a) rfl (by omega) hb
      exact ⟨[b], more, rfl, rfl, hc⟩
    next => cases h
  next b d more hl =>
    split at h
    next ht =>
      obtain ⟨rfl, rfl⟩ := Prod.mk.inj (Option.some.inj h)
      rw [Bool.and_eq_true] at ht
      have ha := tailLength_eq_some hl
      have hc := encodeCodePoint_three rfl (by omega) ht.1 ht.2
      exact ⟨[b, d], more, rfl, rfl, hc⟩
    next => cases h
  next b d e more hl =>
    split at h
    next ht =>
      obtain ⟨rfl, rfl⟩ := Prod.mk.inj (Option.some.inj h)
      rw [Bool.and_eq_true, Bool.and_eq_true] at ht
      have ha := tailLength_eq_some hl
      have hc := encodeCodePoint_four rfl (by omega) ht.1.1 ht.1.2 ht.2
      exact ⟨[b, d, e], more, rfl, rfl, hc⟩
    next => cases h
  next => cases h

theorem character?_ascii (h : a.toNat < 0x80) (rest : Bytes) :
    character? (a :: rest) = some (a.toNat, 0) := by
  have he := character?_one h rest
  rwa [UInt8.ofNat_toNat] at he

theorem isTail_ascii (h : a.toNat < 0x80) : isTail a = false := by
  rw [← Bool.not_eq_true, isTail_iff]
  omega

theorem isSecond_ascii (h : a.toNat < 0x80) : isSecond b a = false := by
  refine Bool.eq_false_iff.mpr fun hs => ?_
  have := bounds_of_isSecond hs
  omega

theorem character?_append_ascii (h : a.toNat < 0x80) (b : UInt8) (x y : Bytes) :
    character? (b :: (x ++ a :: y)) = character? (b :: x) := by
  have ht := isTail_ascii h
  have hs : isSecond b a = false := isSecond_ascii h
  cases hl : tailLength b with
  | none => simp [character?, hl]
  | some n =>
    rcases tailLength_eq_some hl with ⟨rfl, -⟩ | ⟨rfl, -⟩ | ⟨rfl, -⟩ | ⟨rfl, -⟩
    · simp [character?, hl]
    · rcases x with _ | ⟨c, x⟩
      · simp [character?, hl, ht]
      · simp [character?, hl]
    · rcases x with _ | ⟨c, _ | ⟨d, x⟩⟩
      · cases y <;> simp [character?, hl, hs]
      · simp [character?, hl, ht]
      · simp [character?, hl]
    · rcases x with _ | ⟨c, _ | ⟨d, _ | ⟨e, x⟩⟩⟩
      · rcases y with _ | ⟨c, _ | ⟨d, y⟩⟩ <;> simp [character?, hl, hs]
      · cases y <;> simp [character?, hl, ht]
      · simp [character?, hl, ht]
      · simp [character?, hl]

theorem decode_character {tail more : Bytes}
    (h : character? (a :: (tail ++ more)) = some (c, tail.length)) :
    decode (a :: (tail ++ more)) = c :: decode more := by
  rw [decode, decodeFrom, h]
  simp only [decodeFrom_skip]
  exact decodeFrom_append [c] [] 0 more

theorem decode_escape (h : character? (a :: rest) = none) :
    decode (a :: rest) = escape a :: decode rest := by
  rw [decode, decodeFrom, h]
  exact decodeFrom_append [escape a] [] 0 rest

theorem le_of_character?_none (h : character? (a :: rest) = none) : 0x80 ≤ a.toNat := by
  refine Nat.le_of_not_lt fun hlt => ?_
  rw [character?_ascii hlt] at h
  cases h

inductive Decodes : Bytes → Text → Prop where
  | nil : Decodes [] []
  | character {a : UInt8} {tail more : Bytes} {c : CodePoint} {t : Text}
      (read : character? (a :: (tail ++ more)) = some (c, tail.length))
      (written : encodeCodePoint c = a :: tail) (valid : c.isValidChar) (next : Decodes more t) :
      Decodes (a :: (tail ++ more)) (c :: t)
  | escape {a : UInt8} {more : Bytes} {t : Text} (alone : character? (a :: more) = none)
      (next : Decodes more t) : Decodes (a :: more) (escape a :: t)

theorem decodes_decode (bytes : Bytes) : Decodes bytes (decode bytes) := by
  induction hn : bytes.length using Nat.strongRecOn generalizing bytes with
  | _ n ih =>
    cases bytes with
    | nil => exact .nil
    | cons a rest =>
      rw [List.length_cons] at hn
      cases hc : character? (a :: rest) with
      | none =>
        rw [decode_escape hc]
        exact .escape hc (ih rest.length (by omega) rest rfl)
      | some found =>
        obtain ⟨c, k⟩ := found
        obtain ⟨tail, more, rfl, rfl, hw, hv⟩ := exists_of_character? hc
        rw [List.length_append] at hn
        rw [decode_character hc]
        exact .character hc hw hv (ih more.length (by omega) more rfl)

def IsUnit (c : CodePoint) : Prop :=
  c.isValidChar ∨ (0xDC80 ≤ c ∧ c ≤ 0xDCFF)

instance (c : CodePoint) : Decidable (IsUnit c) :=
  inferInstanceAs (Decidable (c.isValidChar ∨ (0xDC80 ≤ c ∧ c ≤ 0xDCFF)))

def encode? (t : Text) : Option Bytes :=
  if ∀ c ∈ t, IsUnit c then some (encode t) else none

theorem escape_bounds (h : 0x80 ≤ a.toNat) : 0xDC80 ≤ escape a ∧ escape a ≤ 0xDCFF := by
  have hlt := a.toNat_lt
  have hbounds : 0xDC80 ≤ 0xDC00 + a.toNat ∧ 0xDC00 + a.toNat ≤ 0xDCFF := by omega
  exact hbounds

theorem encodeCodePoint_escape (h : 0x80 ≤ a.toNat) : encodeCodePoint (escape a) = [a] := by
  rw [encodeCodePoint_eq, if_pos (escape_bounds h)]
  exact congrArg (fun b => [b]) (ofNat_eq (Nat.add_sub_cancel_left 0xDC00 a.toNat))

theorem encode_cons (c : CodePoint) (t : Text) :
    encode (c :: t) = encodeCodePoint c ++ encode t :=
  List.flatMap_cons

namespace Decodes

theorem encode_eq (h : Decodes bytes t) : encode t = bytes := by
  induction h with
  | nil => rfl
  | character _ written _ _ ih =>
    rw [encode_cons, written, ih]
    rfl
  | escape alone _ ih =>
    rw [encode_cons, encodeCodePoint_escape (le_of_character?_none alone), ih]
    rfl

theorem isUnit (h : Decodes bytes t) : ∀ c ∈ t, IsUnit c := by
  induction h with
  | nil => exact nofun
  | character _ _ valid _ ih => exact List.forall_mem_cons.mpr ⟨.inl valid, ih⟩
  | escape alone _ ih =>
    exact List.forall_mem_cons.mpr ⟨.inr (escape_bounds (le_of_character?_none alone)), ih⟩

theorem append_ascii (h : Decodes x t) (ha : a.toNat < 0x80) (y : Bytes) :
    decode (x ++ a :: y) = t ++ a.toNat :: decode y := by
  induction h with
  | nil =>
    have hread : character? (a :: ([] ++ y)) = some (a.toNat, ([] : Bytes).length) :=
      character?_ascii ha y
    exact decode_character hread
  | @character b tail more c t read _ _ _ ih =>
    have hread : character? (b :: (tail ++ (more ++ a :: y))) = some (c, tail.length) := by
      rw [← List.append_assoc, character?_append_ascii ha, read]
    rw [List.cons_append, List.append_assoc, decode_character hread, ih]
    rfl
  | @escape b more t alone _ ih =>
    have hnone : character? (b :: (more ++ a :: y)) = none := by
      rw [character?_append_ascii ha, alone]
    rw [List.cons_append, decode_escape hnone, ih]
    rfl

end Decodes

theorem encode_decode (bytes : Bytes) : encode (decode bytes) = bytes :=
  (decodes_decode bytes).encode_eq

theorem encode?_decode (bytes : Bytes) : encode? (decode bytes) = some bytes := by
  rw [encode?, if_pos (decodes_decode bytes).isUnit, encode_decode]

theorem decode_injective : Function.Injective decode := by
  intro x y h
  rw [← encode_decode x, h, encode_decode]

theorem decode_append_ascii (ha : a.toNat < 0x80) (x y : Bytes) :
    decode (x ++ a :: y) = decode x ++ a.toNat :: decode y :=
  (decodes_decode x).append_ascii ha y

theorem decode_eq_nil_iff : decode bytes = [] ↔ bytes = [] := by
  constructor
  · intro h
    exact decode_injective h
  · rintro rfl
    rfl

theorem mem_decode_ascii (ha : a.toNat < 0x80) : a.toNat ∈ decode bytes ↔ a ∈ bytes := by
  constructor
  · intro h
    have hmem : a ∈ encode (decode bytes) := by
      refine List.mem_flatMap.mpr ⟨a.toNat, h, ?_⟩
      rw [encodeCodePoint_one ha]
      exact List.mem_singleton.mpr rfl
    rwa [encode_decode] at hmem
  · intro h
    obtain ⟨x, y, rfl⟩ := List.append_of_mem h
    rw [decode_append_ascii ha]
    exact List.mem_append_right _ List.mem_cons_self

theorem pieces_decode (ha : a.toNat < 0x80) (bytes : Bytes) :
    Text.pieces a.toNat (decode bytes) = (bytes.splitOn a).map decode := by
  induction hn : bytes.length using Nat.strongRecOn generalizing bytes with
  | _ n ih =>
    by_cases hm : a ∈ bytes
    · obtain ⟨x, y, rfl, hx⟩ := List.eq_append_cons_of_mem hm
      rw [List.length_append, List.length_cons] at hn
      have hy := ih y.length (by omega) y rfl
      rw [decode_append_ascii ha, Text.pieces_append_cons (mt (mem_decode_ascii ha).mp hx), hy,
        List.splitOn_append_cons_self_of_not_mem hx]
      rfl
    · rw [Text.pieces_of_not_mem (mt (mem_decode_ascii ha).mp hm), List.splitOn_eq_singleton hm]
      rfl

end Utf8

end SubtreePartition
