import SubtreePartition.Proofs.Text.Basic
import SubtreePartition.Text.Decimal

namespace SubtreePartition.Text

theorem hexValue_digitChar {d : Nat} (h : d < 16) : hexValue (Nat.digitChar d).toNat = some d := by
  revert d
  decide

theorem digitsValue_concat (base : Nat) (t : Text) (c : CodePoint) :
    digitsValue base (t ++ [c]) =
      (digitsValue base t).bind fun n =>
        (hexValue c).bind fun d => if d < base then some (n * base + d) else none := by
  rw [digitsValue, List.foldl_append, List.foldl_cons, List.foldl_nil]
  rfl

theorem digitsValue_toDigits {base : Nat} (h1 : 1 < base) (h16 : base ≤ 16) (n : Nat) :
    digitsValue base ((Nat.toDigits base n).map Char.toNat) = some n := by
  induction n using Nat.strongRecOn with
  | ind n ih =>
    by_cases hn : n < base
    · have hd := hexValue_digitChar (Nat.lt_of_lt_of_le hn h16)
      rw [Nat.toDigits_of_lt_base hn, List.map_singleton]
      simp [digitsValue, hd, hn]
    · have hle : base ≤ n := Nat.le_of_not_lt hn
      have hmod : n % base < base := Nat.mod_lt n (by omega)
      have hdiv : n / base < n := Nat.div_lt_self (by omega) h1
      have hd := hexValue_digitChar (Nat.lt_of_lt_of_le hmod h16)
      rw [Nat.toDigits_of_base_le h1 hle, List.map_append, List.map_singleton, digitsValue_concat,
        ih _ hdiv, hd]
      simp [hmod, Nat.div_add_mod']

theorem digitsValue_ofNat (n : Nat) : digitsValue 10 (ofNat n) = some n :=
  digitsValue_toDigits (by decide) (by decide) n

theorem ofNat_inj {m n : Nat} : ofNat m = ofNat n ↔ m = n := by
  constructor
  · intro h
    have hvalue : digitsValue 10 (ofNat m) = digitsValue 10 (ofNat n) := congrArg _ h
    rw [digitsValue_ofNat, digitsValue_ofNat] at hvalue
    exact Option.some.inj hvalue
  · rintro rfl
    rfl

theorem isDigit_of_mem_ofNat {c : CodePoint} {n : Nat} (h : c ∈ ofNat n) : isDigit c = true := by
  obtain ⟨d, hd, rfl⟩ := List.mem_map.mp h
  have hdigit := Nat.isDigit_of_mem_toDigits (by decide) (by decide) hd
  obtain ⟨h0, h9⟩ := Char.isDigit_iff_toNat.mp hdigit
  simp only [isDigit, Bool.and_eq_true, decide_eq_true_eq]
  exact ⟨h0, h9⟩

theorem digitsValue_zeros (base width : Nat) (h : 0 < base) (t : Text) :
    digitsValue base (List.replicate width 48 ++ t) = digitsValue base t := by
  have hzero : hexValue 48 = some 0 := by decide
  induction width with
  | zero => rfl
  | succ width ih =>
    rw [List.replicate_succ, List.cons_append, digitsValue, List.foldl_cons]
    simpa [hzero, h, digitsValue] using ih

theorem digitsValue_hex (width n : Nat) : digitsValue 16 (hex width n) = some n := by
  rw [hex, digitsValue_zeros 16 _ (by decide)]
  exact digitsValue_toDigits (by decide) (by decide) n

theorem length_hex {width n : Nat} (h : (Nat.toDigits 16 n).length ≤ width) :
    (hex width n).length = width := by
  simp only [hex, List.length_append, List.length_replicate, List.length_map]
  omega

theorem isAscii_toDigits {base : Nat} (h1 : 1 < base) (h16 : base ≤ 16) (n : Nat) :
    IsAscii ((Nat.toDigits base n).map Char.toNat) := by
  have hdigit : ∀ d, d < 16 → IsAscii [(Nat.digitChar d).toNat] := by decide
  induction n using Nat.strongRecOn with
  | ind n ih =>
    by_cases hn : n < base
    · rw [Nat.toDigits_of_lt_base hn]
      exact hdigit n (Nat.lt_of_lt_of_le hn h16)
    · have hle : base ≤ n := Nat.le_of_not_lt hn
      have hmod : n % base < base := Nat.mod_lt n (by omega)
      have hdiv : n / base < n := Nat.div_lt_self (by omega) h1
      rw [Nat.toDigits_of_base_le h1 hle, List.map_append, isAscii_append]
      exact ⟨ih _ hdiv, hdigit _ (Nat.lt_of_lt_of_le hmod h16)⟩

theorem isAscii_ofNat (n : Nat) : (ofNat n).IsAscii :=
  isAscii_toDigits (by decide) (by decide) n

theorem isAscii_hex (width n : Nat) : (hex width n).IsAscii := by
  rw [hex, isAscii_append]
  refine ⟨fun c hc => ?_, isAscii_toDigits (by decide) (by decide) n⟩
  rw [List.eq_of_mem_replicate hc]
  decide

theorem ofNat_ne_nil (n : Nat) : ofNat n ≠ [] := by
  simp [ofNat, Nat.toDigits_ne_nil]

theorem ofNat_of_le {n : Nat} (h : 10 ≤ n) : ofNat n = ofNat (n / 10) ++ [48 + n % 10] := by
  rw [ofNat, Nat.toDigits_of_base_le (by decide) h, List.map_append, List.map_singleton,
    Nat.toNat_digitChar_of_lt_ten (Nat.mod_lt n (by decide))]
  rfl

theorem ofNat_eq_cons (n : Nat) :
    n = 0 ∨ ∃ d rest, ofNat n = d :: rest ∧ d ≠ 48 := by
  induction n using Nat.strongRecOn with
  | ind n ih =>
    by_cases hn : n < 10
    · by_cases h0 : n = 0
      · exact .inl h0
      · have hne : 48 + n ≠ 48 := by omega
        refine .inr ⟨48 + n, [], ?_, hne⟩
        rw [ofNat, Nat.toDigits_of_lt_base hn, List.map_singleton, Nat.toNat_digitChar_of_lt_ten hn]
    · have hdiv : n / 10 < n := Nat.div_lt_self (by omega) (by decide)
      rcases ih _ hdiv with h0 | ⟨d, rest, hrest, hd⟩
      · omega
      · refine .inr ⟨d, rest ++ [48 + n % 10], ?_, hd⟩
        rw [ofNat_of_le (Nat.le_of_not_lt hn), hrest]
        rfl

end SubtreePartition.Text
