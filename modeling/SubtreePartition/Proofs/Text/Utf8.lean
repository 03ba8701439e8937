import SubtreePartition.Proofs.Text.Basic
import SubtreePartition.Text.Utf8

namespace SubtreePartition

def Text.IsScalar (t : Text) : Prop :=
  ∀ c ∈ t, c.isValidChar

namespace Text

variable {c : CodePoint} {t u : Text}

instance (t : Text) : Decidable t.IsScalar :=
  inferInstanceAs (Decidable (∀ c ∈ t, c.isValidChar))

theorem isScalar_cons : IsScalar (c :: t) ↔ c.isValidChar ∧ t.IsScalar :=
  List.forall_mem_cons

theorem isScalar_append : IsScalar (t ++ u) ↔ t.IsScalar ∧ u.IsScalar :=
  List.forall_mem_append

theorem IsAscii.isScalar (h : t.IsAscii) : t.IsScalar :=
  fun c hc => .inl (Nat.lt_of_le_of_lt (h c hc).2 (by decide))

end Text

namespace Utf8

variable {c n : Nat} {a b : UInt8}

theorem toNat_ofNat_of_lt (h : n < 256) : (UInt8.ofNat n).toNat = n := by
  rw [UInt8.toNat_ofNat', Nat.mod_eq_of_lt h]

theorem isTail_iff : isTail b = true ↔ 0x80 ≤ b.toNat ∧ b.toNat ≤ 0xBF := by
  simp [isTail, UInt8.le_iff_toNat_le]

theorem tailLength_eq (b : UInt8) :
    tailLength b =
      if b.toNat < 0x80 then some 0
      else if 0xC2 ≤ b.toNat ∧ b.toNat ≤ 0xDF then some 1
      else if 0xE0 ≤ b.toNat ∧ b.toNat ≤ 0xEF then some 2
      else if 0xF0 ≤ b.toNat ∧ b.toNat ≤ 0xF4 then some 3
      else none := by
  simp [tailLength, UInt8.le_iff_toNat_le, UInt8.lt_iff_toNat_lt]

theorem isSecond_of_isTail (ht : isTail b = true) (hE0 : a.toNat = 0xE0 → 0xA0 ≤ b.toNat)
    (hED : a.toNat = 0xED → b.toNat ≤ 0x9F) (hF0 : a.toNat = 0xF0 → 0x90 ≤ b.toNat)
    (hF4 : a.toNat = 0xF4 → b.toNat ≤ 0x8F) : isSecond a b = true := by
  obtain ⟨hlow, hhigh⟩ := isTail_iff.mp ht
  simp only [isSecond, ← UInt8.toNat_inj, UInt8.le_iff_toNat_le]
  split
  next h => simpa using ⟨hE0 h, hhigh⟩
  next =>
    split
    next h => simpa using ⟨hlow, hED h⟩
    next =>
      split
      next h => simpa using ⟨hF0 h, hhigh⟩
      next =>
        split
        next h => simpa using ⟨hlow, hF4 h⟩
        next => exact ht

theorem low6_tail (n : Nat) : low6 (UInt8.ofNat (0x80 + n % 0x40)) = n % 0x40 := by
  rw [low6, toNat_ofNat_of_lt (by omega)]
  omega

theorem isTail_tail (n : Nat) : isTail (UInt8.ofNat (0x80 + n % 0x40)) = true := by
  rw [isTail_iff, toNat_ofNat_of_lt (by omega)]
  omega

theorem character?_one (h : c < 0x80) (rest : Bytes) :
    character? (UInt8.ofNat c :: rest) = some (c, 0) := by
  have hlead : (UInt8.ofNat c).toNat = c := toNat_ofNat_of_lt (by omega)
  have hlen : tailLength (UInt8.ofNat c) = some 0 := by
    rw [tailLength_eq, hlead, if_pos h]
  simp only [character?, hlen, hlead]

theorem character?_two (h1 : 0x80 ≤ c) (h2 : c < 0x800) (rest : Bytes) :
    character? (UInt8.ofNat (0xC0 + c / 0x40) :: UInt8.ofNat (0x80 + c % 0x40) :: rest) =
      some (c, 1) := by
  have hlead : (UInt8.ofNat (0xC0 + c / 0x40)).toNat = 0xC0 + c / 0x40 :=
    toNat_ofNat_of_lt (by omega)
  have hlen : tailLength (UInt8.ofNat (0xC0 + c / 0x40)) = some 1 := by
    rw [tailLength_eq, hlead, if_neg (by omega), if_pos (by omega)]
  have hvalue : (0xC0 + c / 0x40) % 0x20 * 0x40 + c % 0x40 = c := by omega
  simp only [character?, hlen, isTail_tail, if_true, hlead, low6_tail, hvalue]

theorem character?_three (h1 : 0x800 ≤ c) (h2 : c < 0x10000) (hs : c < 0xD800 ∨ 0xDFFF < c)
    (rest : Bytes) :
    character? (UInt8.ofNat (0xE0 + c / 0x1000) :: UInt8.ofNat (0x80 + c / 0x40 % 0x40) ::
      UInt8.ofNat (0x80 + c % 0x40) :: rest) = some (c, 2) := by
  have hlead : (UInt8.ofNat (0xE0 + c / 0x1000)).toNat = 0xE0 + c / 0x1000 :=
    toNat_ofNat_of_lt (by omega)
  have hlen : tailLength (UInt8.ofNat (0xE0 + c / 0x1000)) = some 2 := by
    rw [tailLength_eq, hlead, if_neg (by omega), if_neg (by omega), if_pos (by omega)]
  have hsecond : isSecond (UInt8.ofNat (0xE0 + c / 0x1000))
      (UInt8.ofNat (0x80 + c / 0x40 % 0x40)) = true := by
    apply isSecond_of_isTail (isTail_tail _)
    all_goals
      rw [hlead, toNat_ofNat_of_lt (by omega)]
      omega
  have hvalue : (0xE0 + c / 0x1000) % 0x10 * 0x1000 + c / 0x40 % 0x40 * 0x40 + c % 0x40 = c := by
    omega
  simp only [character?, hlen, hsecond, isTail_tail, Bool.and_self, if_true, hlead, low6_tail,
    hvalue]

theorem character?_four (h1 : 0x10000 ≤ c) (h2 : c < 0x110000) (rest : Bytes) :
    character? (UInt8.ofNat (0xF0 + c / 0x40000) :: UInt8.ofNat (0x80 + c / 0x1000 % 0x40) ::
      UInt8.ofNat (0x80 + c / 0x40 % 0x40) :: UInt8.ofNat (0x80 + c % 0x40) :: rest) =
        some (c, 3) := by
  have hlead : (UInt8.ofNat (0xF0 + c / 0x40000)).toNat = 0xF0 + c / 0x40000 :=
    toNat_ofNat_of_lt (by omega)
  have hlen : tailLength (UInt8.ofNat (0xF0 + c / 0x40000)) = some 3 := by
    rw [tailLength_eq, hlead, if_neg (by omega), if_neg (by omega), if_neg (by omega),
      if_pos (by omega)]
  have hsecond : isSecond (UInt8.ofNat (0xF0 + c / 0x40000))
      (UInt8.ofNat (0x80 + c / 0x1000 % 0x40)) = true := by
    apply isSecond_of_isTail (isTail_tail _)
    all_goals
      rw [hlead, toNat_ofNat_of_lt (by omega)]
      omega
  have hvalue : (0xF0 + c / 0x40000) % 0x08 * 0x40000 + c / 0x1000 % 0x40 * 0x1000 +
      c / 0x40 % 0x40 * 0x40 + c % 0x40 = c := by omega
  simp only [character?, hlen, hsecond, isTail_tail, Bool.and_self, if_true, hlead, low6_tail,
    hvalue]

theorem character?_encodeCodePoint (hc : c.isValidChar) (rest : Bytes) :
    ∃ a more, encodeCodePoint c = a :: more ∧
      character? (a :: (more ++ rest)) = some (c, more.length) := by
  have hescape : ¬ (0xDC80 ≤ c ∧ c ≤ 0xDCFF) := by omega
  unfold encodeCodePoint
  simp only [Bool.and_eq_true, decide_eq_true_eq, if_neg hescape]
  split
  next h1 => exact ⟨_, [], rfl, character?_one h1 rest⟩
  next h1 =>
    have h1' : 0x80 ≤ c := Nat.le_of_not_lt h1
    split
    next h2 => exact ⟨_, [_], rfl, character?_two h1' h2 rest⟩
    next h2 =>
      have h2' : 0x800 ≤ c := Nat.le_of_not_lt h2
      split
      next h3 => exact ⟨_, [_, _], rfl, character?_three h2' h3 (by omega) rest⟩
      next h3 =>
        have h3' : 0x10000 ≤ c := Nat.le_of_not_lt h3
        exact ⟨_, [_, _, _], rfl, character?_four h3' (by omega) rest⟩

theorem decodeFrom_skip (done : Text) (skipped rest : Bytes) :
    decodeFrom done skipped.length (skipped ++ rest) = decodeFrom done 0 rest := by
  induction skipped with
  | nil => rfl
  | cons b skipped ih =>
    rw [List.cons_append, List.length_cons, decodeFrom]
    exact ih

theorem decodeFrom_encode {t : Text} (ht : t.IsScalar) (done : Text) (rest : Bytes) :
    decodeFrom done 0 (encode t ++ rest) = decodeFrom (t.reverse ++ done) 0 rest := by
  induction t generalizing done with
  | nil => rfl
  | cons c t ih =>
    obtain ⟨a, more, hencode, hread⟩ :=
      character?_encodeCodePoint (ht c List.mem_cons_self) (encode t ++ rest)
    have hsplit : encode (c :: t) ++ rest = a :: (more ++ (encode t ++ rest)) := by
      rw [encode, List.flatMap_cons, hencode, List.append_assoc, List.cons_append]
      rfl
    have hrest := ih (fun d hd => ht d (List.mem_cons_of_mem c hd)) (c :: done)
    rw [hsplit, decodeFrom, hread]
    simp only [decodeFrom_skip]
    rw [hrest, List.reverse_cons, List.append_assoc]
    rfl

theorem decode_encode {t : Text} (ht : t.IsScalar) : decode (encode t) = t := by
  have h := decodeFrom_encode ht [] []
  rw [List.append_nil, List.append_nil] at h
  rw [decode, h, decodeFrom, List.reverse_reverse]

end Utf8

end SubtreePartition
