import SubtreePartition.Json.Reader
import SubtreePartition.Proofs.Text.Decimal
import SubtreePartition.Proofs.Text.Utf8

namespace SubtreePartition.Json

def shortForm : CodePoint → Option CodePoint
  | 34 => some 34
  | 92 => some 92
  | 8 => some 98
  | 12 => some 102
  | 10 => some 110
  | 13 => some 114
  | 9 => some 116
  | _ => none

def codeEscape (u : CodePoint) : Text :=
  92 :: 117 :: Text.hex 4 u

def writtenCharacter (c : CodePoint) : Text :=
  match shortForm c with
  | some letter => [92, letter]
  | none =>
      if 32 ≤ c && c ≤ 126 then [c]
      else if c < 0x10000 then codeEscape c
      else
        codeEscape (0xD800 + (c - 0x10000) / 0x400) ++ codeEscape (0xDC00 + (c - 0x10000) % 0x400)

def writtenText (t : Text) : Text :=
  34 :: (t.flatMap writtenCharacter ++ [34])

mutual

def written : Value → Text
  | .null => "null"
  | .bool true => "true"
  | .bool false => "false"
  | .integer n => Text.ofInt n
  | .real digits => digits
  | .text t => writtenText t
  | .array items => 91 :: (Text.intercalate [44] (writtenItems items) ++ [93])
  | .object members => 123 :: (Text.intercalate [44] (writtenMembers members) ++ [125])

def writtenItems : List Value → List Text
  | [] => []
  | v :: rest => written v :: writtenItems rest

def writtenMembers : List (Text × Value) → List Text
  | [] => []
  | (key, v) :: rest => (writtenText key ++ 58 :: written v) :: writtenMembers rest

end

inductive IsPlain : Value → Prop where
  | null : IsPlain .null
  | bool (b : Bool) : IsPlain (.bool b)
  | integer {n : Int} (short : (Text.ofNat n.natAbs).length ≤ Text.longestNumeral) :
      IsPlain (.integer n)
  | text {t : Text} (scalar : t.IsScalar) : IsPlain (.text t)
  | array {items : List Value} (plain : ∀ v ∈ items, IsPlain v) : IsPlain (.array items)
  | object {members : List (Text × Value)} (names : ∀ m ∈ members, m.1.IsScalar)
      (values : ∀ m ∈ members, IsPlain m.2) : IsPlain (.object members)

theorem exists_ofNat_digit (n : Nat) :
    ∃ (d : Nat) (more : Text), Text.ofNat n = d :: more ∧ 48 ≤ d ∧ d ≤ 57 := by
  obtain ⟨d, more, hd⟩ := List.exists_cons_of_ne_nil (Text.ofNat_ne_nil n)
  have hdigit : Text.isDigit d = true := by
    apply Text.isDigit_of_mem_ofNat (n := n)
    rw [hd]
    exact List.mem_cons_self
  refine ⟨d, more, hd, ?_⟩
  simpa [Text.isDigit] using hdigit

theorem exists_ofInt (n : Int) :
    ∃ (c : Nat) (more : Text), Text.ofInt n = c :: more ∧ 45 ≤ c ∧ c ≤ 57 := by
  cases n with
  | ofNat n =>
    obtain ⟨d, more, hd, hlow, hhigh⟩ := exists_ofNat_digit n
    exact ⟨d, more, hd, by omega, hhigh⟩
  | negSucc n => exact ⟨45, _, rfl, by decide, by decide⟩

theorem IsPlain.exists_written {v : Value} (h : IsPlain v) :
    ∃ c more, written v = c :: more ∧ isSpace c = false ∧ c ≠ 93 ∧ c ≠ 0xFEFF := by
  cases h with
  | null => exact ⟨_, _, rfl, by decide, by decide, by decide⟩
  | bool b => cases b <;> exact ⟨_, _, rfl, by decide, by decide, by decide⟩
  | @integer n short =>
    obtain ⟨c, more, hc, hlow, hhigh⟩ := exists_ofInt n
    have hne : ∀ k : Nat, k < 45 ∨ 57 < k → c ≠ k := by
      intro k hk
      omega
    refine ⟨c, more, hc, ?_, hne 93 (by decide), hne 0xFEFF (by decide)⟩
    simp [isSpace, hne]
  | text scalar => exact ⟨_, _, rfl, by decide, by decide, by decide⟩
  | array plain => exact ⟨_, _, rfl, by decide, by decide, by decide⟩
  | object names values => exact ⟨_, _, rfl, by decide, by decide, by decide⟩

theorem isAscii_codeEscape (u : CodePoint) : (codeEscape u).IsAscii :=
  Text.isAscii_cons.mpr ⟨by decide, Text.isAscii_cons.mpr ⟨by decide, Text.isAscii_hex 4 u⟩⟩

theorem isAscii_shortForm {c letter : CodePoint} (h : shortForm c = some letter) :
    Text.IsAscii [92, letter] := by
  unfold shortForm at h
  split at h
  all_goals cases h
  all_goals decide

theorem isAscii_writtenCharacter (c : CodePoint) : (writtenCharacter c).IsAscii := by
  unfold writtenCharacter
  cases hf : shortForm c with
  | some letter => exact isAscii_shortForm hf
  | none =>
    simp only [Bool.and_eq_true, decide_eq_true_eq]
    split
    next hliteral => exact List.forall_mem_singleton.mpr hliteral
    next =>
      split
      · exact isAscii_codeEscape c
      · exact Text.isAscii_append.mpr ⟨isAscii_codeEscape _, isAscii_codeEscape _⟩

theorem isAscii_writtenText (t : Text) : (writtenText t).IsAscii := by
  rw [writtenText, Text.isAscii_cons, Text.isAscii_append, Text.isAscii_flatMap]
  exact ⟨by decide, fun c _ => isAscii_writtenCharacter c, by decide⟩

theorem isAscii_writtenItems {items : List Value} (h : ∀ v ∈ items, (written v).IsAscii) :
    ∀ t ∈ writtenItems items, t.IsAscii := by
  induction items with
  | nil => exact fun _ ht => absurd ht List.not_mem_nil
  | cons v items ih =>
    rw [List.forall_mem_cons] at h
    rw [writtenItems, List.forall_mem_cons]
    exact ⟨h.1, ih h.2⟩

theorem isAscii_writtenMembers {members : List (Text × Value)}
    (h : ∀ m ∈ members, (written m.2).IsAscii) : ∀ t ∈ writtenMembers members, t.IsAscii := by
  induction members with
  | nil => exact fun _ ht => absurd ht List.not_mem_nil
  | cons m members ih =>
    rw [List.forall_mem_cons] at h
    rw [writtenMembers, List.forall_mem_cons, Text.isAscii_append, Text.isAscii_cons]
    exact ⟨⟨isAscii_writtenText m.1, by decide, h.1⟩, ih h.2⟩

theorem IsPlain.isAscii_written {v : Value} (h : IsPlain v) : (written v).IsAscii := by
  induction h with
  | null => decide
  | bool b => cases b <;> decide
  | @integer n short =>
    cases n with
    | ofNat n => exact Text.isAscii_ofNat n
    | negSucc n => exact Text.isAscii_cons.mpr ⟨by decide, Text.isAscii_ofNat (n + 1)⟩
  | text scalar => exact isAscii_writtenText _
  | array plain ih =>
    rw [written, Text.isAscii_cons, Text.isAscii_append]
    exact ⟨by decide, Text.isAscii_intercalate (by decide) (isAscii_writtenItems ih), by decide⟩
  | object names values ih =>
    rw [written, Text.isAscii_cons, Text.isAscii_append]
    exact ⟨by decide, Text.isAscii_intercalate (by decide) (isAscii_writtenMembers ih), by decide⟩

example : written (.array [.text "é\"😀\n", .integer (-3), .null]) =
    "[\"\\u00e9\\\"\\ud83d\\ude00\\n\",-3,null]" := by decide

end SubtreePartition.Json
