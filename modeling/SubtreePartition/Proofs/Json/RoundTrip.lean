import SubtreePartition.Proofs.Json.Written
import SubtreePartition.Proofs.Text.Basic

namespace SubtreePartition.Json

theorem isHighSurrogate_iff {u : Nat} :
    Text.isHighSurrogate u = true ↔ 0xD800 ≤ u ∧ u ≤ 0xDBFF := by
  simp [Text.isHighSurrogate]

theorem isLowSurrogate_iff {u : Nat} :
    Text.isLowSurrogate u = true ↔ 0xDC00 ≤ u ∧ u ≤ 0xDFFF := by
  simp [Text.isLowSurrogate]

theorem joinSurrogates_halves {c : Nat} (h : 0x10000 ≤ c) :
    Text.joinSurrogates (0xD800 + (c - 0x10000) / 0x400) (0xDC00 + (c - 0x10000) % 0x400) = c := by
  have hc : 0x10000 + (0xD800 + (c - 0x10000) / 0x400 - 0xD800) * 0x400 +
      (0xDC00 + (c - 0x10000) % 0x400 - 0xDC00) = c := by omega
  exact hc

theorem exists_hex4 {u : Nat} (h : u < 0x10000) :
    ∃ a b c d, Text.hex 4 u = [a, b, c, d] ∧ hex4 a b c d = some u := by
  have hdigits : (Nat.toDigits 16 u).length ≤ 4 :=
    (Nat.length_toDigits_le_iff (by decide) (by decide)).mpr h
  have hlen := Text.length_hex hdigits
  have hvalue := Text.digitsValue_hex 4 u
  match hx : Text.hex 4 u, hlen with
  | [a, b, c, d], _ =>
    rw [hx] at hvalue
    exact ⟨a, b, c, d, rfl, hvalue⟩

theorem stringFrom_skip (done skipped rest : Text) :
    stringFrom done skipped.length (skipped ++ rest) = stringFrom done 0 rest := by
  induction skipped with
  | nil => rfl
  | cons c skipped ih =>
    rw [List.cons_append, List.length_cons, stringFrom]
    exact ih

theorem stringFrom_codeEscape {u : Nat} {rest : Text} (h : u < 0x10000)
    (hs : Text.isHighSurrogate u = false) (hr : rest ≠ []) (done : Text) :
    stringFrom done 0 (codeEscape u ++ rest) = stringFrom (u :: done) 0 rest := by
  obtain ⟨a, b, c, d, hx, hvalue⟩ := exists_hex4 h
  obtain ⟨next, more, rfl⟩ := List.exists_cons_of_ne_nil hr
  rw [codeEscape, hx]
  simp only [List.cons_append, List.nil_append]
  rw [stringFrom]
  simp only [hvalue, hs, Nat.reduceEqDiff, if_false, if_true, Bool.false_eq_true]
  exact stringFrom_skip (u :: done) [117, a, b, c, d] (next :: more)

theorem stringFrom_pair {high low : Nat} {rest : Text} (h : high < 0x10000) (h' : low < 0x10000)
    (hs : Text.isHighSurrogate high = true) (hs' : Text.isLowSurrogate low = true)
    (hr : rest ≠ []) (done : Text) :
    stringFrom done 0 (codeEscape high ++ (codeEscape low ++ rest)) =
      stringFrom (Text.joinSurrogates high low :: done) 0 rest := by
  obtain ⟨a, b, c, d, hx, hvalue⟩ := exists_hex4 h
  obtain ⟨a', b', c', d', hx', hvalue'⟩ := exists_hex4 h'
  obtain ⟨next, more, rfl⟩ := List.exists_cons_of_ne_nil hr
  rw [codeEscape, codeEscape, hx, hx']
  simp only [List.cons_append, List.nil_append]
  -- The low half is looked at from the high one, with the character behind it still there.
  rw [stringFrom]
  simp only [hvalue, hs, hs', lowHalf?, hvalue', Option.filter_some, Nat.reduceEqDiff, if_false,
    if_true]
  exact stringFrom_skip _ [117, a, b, c, d, 92, 117, a', b', c', d'] (next :: more)

theorem shortEscape_shortForm {c letter : CodePoint} (h : shortForm c = some letter) :
    letter ≠ 117 ∧ shortEscape letter = some c := by
  unfold shortForm at h
  split at h
  all_goals cases h
  all_goals exact ⟨by decide, rfl⟩

theorem shortForm_eq_none {c : Nat} (h : shortForm c = none) : c ≠ 34 ∧ c ≠ 92 := by
  constructor <;> rintro rfl <;> cases h

theorem stringFrom_shortForm {c letter : CodePoint} (h : shortForm c = some letter)
    (done rest : Text) :
    stringFrom done 0 (92 :: letter :: rest) = stringFrom (c :: done) 0 rest := by
  obtain ⟨hu, he⟩ := shortEscape_shortForm h
  rw [stringFrom]
  · simp only [Nat.reduceEqDiff, if_false, if_true, he]
    exact stringFrom_skip (c :: done) [letter] rest
  · exact fun _ _ _ _ _ _ hl => absurd hl hu
  · exact hu

theorem stringFrom_literal {c : Nat} (h : 32 ≤ c) (hq : c ≠ 34) (hb : c ≠ 92) (done rest : Text) :
    stringFrom done 0 (c :: rest) = stringFrom (c :: done) 0 rest := by
  have hc : ¬ c ≤ 31 := by omega
  rw [stringFrom.eq_def]
  simp only [hq, hb, hc, if_false]

theorem stringFrom_writtenCharacter {c : Nat} {rest : Text} (hc : c.isValidChar) (hr : rest ≠ [])
    (done : Text) :
    stringFrom done 0 (writtenCharacter c ++ rest) = stringFrom (c :: done) 0 rest := by
  unfold writtenCharacter
  cases hf : shortForm c with
  | some letter => exact stringFrom_shortForm hf done rest
  | none =>
    obtain ⟨hq, hb⟩ := shortForm_eq_none hf
    simp only [Bool.and_eq_true, decide_eq_true_eq]
    split
    next hliteral => exact stringFrom_literal hliteral.1 hq hb done rest
    next =>
      split
      next hplane =>
        have hs : Text.isHighSurrogate c = false := by
          rw [← Bool.not_eq_true, isHighSurrogate_iff]
          omega
        exact stringFrom_codeEscape hplane hs hr done
      next hplane =>
        have hle : 0x10000 ≤ c := Nat.le_of_not_lt hplane
        have hhigh : Text.isHighSurrogate (0xD800 + (c - 0x10000) / 0x400) = true := by
          rw [isHighSurrogate_iff]
          omega
        have hlow : Text.isLowSurrogate (0xDC00 + (c - 0x10000) % 0x400) = true := by
          rw [isLowSurrogate_iff]
          omega
        have hpair := stringFrom_pair (by omega) (by omega) hhigh hlow hr done
        rw [joinSurrogates_halves hle] at hpair
        rw [List.append_assoc]
        exact hpair

theorem string_written {t : Text} (ht : t.IsScalar) (rest : Text) :
    string (t.flatMap writtenCharacter ++ 34 :: rest) = .ok (t, rest) := by
  have h : ∀ done, stringFrom done 0 (t.flatMap writtenCharacter ++ 34 :: rest) =
      .ok (done.reverse ++ t, rest) := by
    induction t with
    | nil =>
      intro done
      rw [List.flatMap_nil, List.nil_append, stringFrom.eq_def, List.append_nil]
      rfl
    | cons c t ih =>
      intro done
      have hc := ht c List.mem_cons_self
      have hrest := ih (fun d hd => ht d (List.mem_cons_of_mem c hd)) (c :: done)
      rw [List.flatMap_cons, List.append_assoc, stringFrom_writtenCharacter hc (by simp), hrest]
      simp
  exact h []

def EndsValue : Text → Prop
  | [] => True
  | c :: _ => c = 44 ∨ c = 93 ∨ c = 125

theorem endsValue_nil : EndsValue [] :=
  trivial

theorem endsValue_comma (t : Text) : EndsValue (44 :: t) :=
  .inl rfl

theorem endsValue_bracket (t : Text) : EndsValue (93 :: t) :=
  .inr (.inl rfl)

theorem endsValue_brace (t : Text) : EndsValue (125 :: t) :=
  .inr (.inr rfl)

theorem EndsValue.fractionPart {rest : Text} (h : EndsValue rest) :
    fractionPart rest = ([], rest) := by
  match rest, h with
  | [], _ => rfl
  | c :: more, h => rcases h with rfl | rfl | rfl <;> rfl

theorem EndsValue.exponentPart {rest : Text} (h : EndsValue rest) :
    exponentPart rest = ([], rest) := by
  match rest, h with
  | [], _ => rfl
  | c :: more, h => rcases h with rfl | rfl | rfl <;> rfl

theorem EndsValue.not_digit {rest : Text} (h : EndsValue rest) :
    rest.takeWhile Text.isDigit = [] ∧ rest.dropWhile Text.isDigit = rest := by
  match rest, h with
  | [], _ => exact ⟨rfl, rfl⟩
  | c :: more, h => rcases h with rfl | rfl | rfl <;> exact ⟨rfl, rfl⟩

theorem wholePart_ofNat (n : Nat) {rest : Text} (h : EndsValue rest) :
    wholePart (Text.ofNat n ++ rest) = (Text.ofNat n, rest) := by
  rcases Text.ofNat_eq_cons n with rfl | ⟨d, more, hd, hne⟩
  · rfl
  · have hdigits : ∀ c ∈ Text.ofNat n, Text.isDigit c = true := fun _ => Text.isDigit_of_mem_ofNat
    have hwhole : wholePart (Text.ofNat n ++ rest) =
        ((Text.ofNat n ++ rest).takeWhile Text.isDigit,
          (Text.ofNat n ++ rest).dropWhile Text.isDigit) := by
      rw [hd, List.cons_append, wholePart]
      exact fun _ he => hne (List.cons.inj he).1
    rw [hwhole, List.takeWhile_append_of_pos hdigits, List.dropWhile_append_of_pos hdigits,
      h.not_digit.1, h.not_digit.2, List.append_nil]

theorem magnitude_ofNat (negative : Bool) {n : Nat} {rest : Text} (h : EndsValue rest)
    (hn : (Text.ofNat n).length ≤ Text.longestNumeral) :
    magnitude negative (Text.ofNat n ++ rest) =
      .ok (.integer (Text.signed negative n), rest) := by
  have hwhole : (Text.ofNat n).isEmpty = false := by
    simpa using Text.ofNat_ne_nil n
  simp only [magnitude, wholePart_ofNat n h, hwhole, h.fractionPart, h.exponentPart,
    Text.digitsValue_ofNat, if_neg (Nat.not_lt.mpr hn)]
  rfl

theorem words_eq :
    words =
      [([110, 117, 108, 108], .null), ([116, 114, 117, 101], .bool true),
        ([102, 97, 108, 115, 101], .bool false), ([78, 97, 78], .real "NaN"),
        ([73, 110, 102, 105, 110, 105, 116, 121], .real "Infinity"),
        ([45, 73, 110, 102, 105, 110, 105, 116, 121], .real "-Infinity")] := rfl

theorem word?_digit {d : Nat} (hd : 48 ≤ d ∧ d ≤ 57) (t : Text) : word? (d :: t) = none := by
  have hne : ∀ c : Nat, c < 48 ∨ 57 < c → (c == d) = false := by
    intro c hc
    rw [beq_eq_false_iff_ne]
    omega
  simp [word?, words_eq, List.isPrefixOf_cons_cons, hne]

theorem word?_minus {d : Nat} (hd : 48 ≤ d ∧ d ≤ 57) (t : Text) :
    word? (45 :: d :: t) = none := by
  have hne : (73 == d) = false := by
    rw [beq_eq_false_iff_ne]
    omega
  simp [word?, words_eq, List.isPrefixOf_cons_cons, hne]

theorem atom_ofInt {n : Int} {rest : Text} (h : EndsValue rest)
    (hn : (Text.ofNat n.natAbs).length ≤ Text.longestNumeral) :
    atom (Text.ofInt n ++ rest) = .ok (.integer n, rest) := by
  cases n with
  | ofNat n =>
    have hm := magnitude_ofNat false h hn
    obtain ⟨d, more, hd, hlow, hhigh⟩ := exists_ofNat_digit n
    have hquote : d ≠ 34 := by omega
    have hminus : d ≠ 45 := by omega
    have hword := word?_digit ⟨hlow, hhigh⟩ (more ++ rest)
    change magnitude false (Text.ofNat n ++ rest) = _ at hm
    rw [Text.ofInt]
    rw [hd, List.cons_append] at hm ⊢
    rw [atom, hword]
    · refine Eq.trans ?_ hm
      exact number.eq_2 _ fun _ he => hminus (List.cons.inj he).1
    · exact fun _ he => hquote (List.cons.inj he).1
  | negSucc n =>
    have hm := magnitude_ofNat true h hn
    obtain ⟨d, more, hd, hdigit⟩ := exists_ofNat_digit (n + 1)
    have hword := word?_minus hdigit (more ++ rest)
    change magnitude true (Text.ofNat (n + 1) ++ rest) = _ at hm
    rw [Text.ofInt, List.cons_append]
    rw [hd, List.cons_append] at hm ⊢
    rw [atom, hword]
    · exact hm
    · exact fun _ he => absurd (List.cons.inj he).1 (by decide)

theorem atom_writtenText {t : Text} (ht : t.IsScalar) (rest : Text) :
    atom (writtenText t ++ rest) = .ok (.text t, rest) := by
  rw [writtenText, List.cons_append, List.append_assoc, atom, List.singleton_append,
    string_written ht]
  rfl

theorem name_writtenText {t : Text} (ht : t.IsScalar) (rest : Text) :
    name (writtenText t ++ 58 :: rest) = .ok (t, skipSpace rest) := by
  rw [writtenText, List.cons_append, List.append_assoc, name, List.singleton_append,
    string_written ht]
  rfl

theorem skipSpace_cons {c : CodePoint} (hc : isSpace c = false) (t : Text) :
    skipSpace (c :: t) = c :: t := by
  rw [skipSpace, List.dropWhile_cons_of_neg (by simp [hc])]

def Reads (v : Value) : Prop :=
  ∀ (fuel : Nat) (rest : Text), 2 * (written v).length ≤ fuel → EndsValue rest →
    valueWith fuel (written v ++ rest) = .ok (v, rest)

theorem skipSpace_written {v : Value} (h : IsPlain v) (rest : Text) :
    skipSpace (written v ++ rest) = written v ++ rest := by
  obtain ⟨c, more, hv, hspace, -⟩ := h.exists_written
  rw [hv, List.cons_append, skipSpace_cons hspace]

theorem skipSpace_writtenItems {w : Value} (h : IsPlain w) (items : List Value) (rest : Text) :
    skipSpace (Text.intercalate [44] (writtenItems (w :: items)) ++ rest) =
      Text.intercalate [44] (writtenItems (w :: items)) ++ rest := by
  rw [writtenItems, Text.intercalate, List.append_assoc, skipSpace_written h]

theorem skipSpace_writtenMembers (m : Text × Value) (members : List (Text × Value)) (rest : Text) :
    skipSpace (Text.intercalate [44] (writtenMembers (m :: members)) ++ rest) =
      Text.intercalate [44] (writtenMembers (m :: members)) ++ rest := by
  rw [writtenMembers, writtenText, Text.intercalate]
  exact skipSpace_cons (by decide) _

section Steps

variable {fuel : Nat} {t u after : Text} {key : Text} {v : Value}

theorem itemsWith_last (hv : valueWith fuel t = .ok (v, 93 :: after)) (done : List Value) :
    itemsWith (fuel + 1) done t = .ok (.array (v :: done).reverse, after) := by
  rw [itemsWith, hv]
  rfl

theorem itemsWith_next (hv : valueWith fuel t = .ok (v, 44 :: after)) (done : List Value) :
    itemsWith (fuel + 1) done t = itemsWith fuel (v :: done) (skipSpace after) := by
  rw [itemsWith, hv]
  rfl

theorem membersWith_last (hk : name t = .ok (key, u))
    (hv : valueWith fuel u = .ok (v, 125 :: after)) (done : List (Text × Value)) :
    membersWith (fuel + 1) done t = .ok (.object ((key, v) :: done).reverse, after) := by
  rw [membersWith, hk]
  simp only [bind, Except.bind, hv]
  rfl

theorem membersWith_next (hk : name t = .ok (key, u))
    (hv : valueWith fuel u = .ok (v, 44 :: after)) (done : List (Text × Value)) :
    membersWith (fuel + 1) done t = membersWith fuel ((key, v) :: done) (skipSpace after) := by
  rw [membersWith, hk]
  simp only [bind, Except.bind, hv]
  rfl

end Steps

theorem itemsWith_written {items : List Value} (hne : items ≠ [])
    (hplain : ∀ v ∈ items, IsPlain v) (hreads : ∀ v ∈ items, Reads v) (fuel : Nat)
    (done : List Value) (after : Text)
    (hf : 2 * (Text.intercalate [44] (writtenItems items)).length < fuel) :
    itemsWith fuel done (Text.intercalate [44] (writtenItems items) ++ 93 :: after) =
      .ok (.array (done.reverse ++ items), after) := by
  -- One step goes to the row, and each item pays for its own by two for every character.
  induction items generalizing fuel done with
  | nil => exact absurd rfl hne
  | cons v rest ih =>
    obtain ⟨fuel, rfl⟩ := Nat.exists_eq_add_one_of_ne_zero (Nat.ne_zero_of_lt hf)
    have hv := hreads v List.mem_cons_self fuel
    cases rest with
    | nil =>
      rw [writtenItems, writtenItems, Text.intercalate_single] at hf ⊢
      rw [itemsWith_last (hv _ (by omega) (endsValue_bracket after)), List.reverse_cons]
    | cons w rest =>
      have hw := hplain w (by simp)
      have hrest := ih (by simp) (fun v h => hplain v (List.mem_cons_of_mem _ h))
        (fun v h => hreads v (List.mem_cons_of_mem _ h)) fuel (v :: done)
      have hrow : Text.intercalate [44] (writtenItems (v :: w :: rest)) =
          written v ++ 44 :: Text.intercalate [44] (writtenItems (w :: rest)) :=
        Text.intercalate_cons_cons _ _ _ _
      rw [hrow, List.length_append, List.length_cons] at hf
      rw [hrow, List.append_assoc, List.cons_append,
        itemsWith_next (hv _ (by omega) (endsValue_comma _)), skipSpace_writtenItems hw,
        hrest (by omega), List.reverse_cons, List.append_assoc, List.singleton_append]

theorem membersWith_written {members : List (Text × Value)} (hne : members ≠ [])
    (hnames : ∀ m ∈ members, m.1.IsScalar) (hplain : ∀ m ∈ members, IsPlain m.2)
    (hreads : ∀ m ∈ members, Reads m.2) (fuel : Nat) (done : List (Text × Value)) (after : Text)
    (hf : 2 * (Text.intercalate [44] (writtenMembers members)).length < fuel) :
    membersWith fuel done (Text.intercalate [44] (writtenMembers members) ++ 125 :: after) =
      .ok (.object (done.reverse ++ members), after) := by
  induction members generalizing fuel done with
  | nil => exact absurd rfl hne
  | cons m rest ih =>
    obtain ⟨key, v⟩ := m
    obtain ⟨fuel, rfl⟩ := Nat.exists_eq_add_one_of_ne_zero (Nat.ne_zero_of_lt hf)
    have hname := fun rest => name_writtenText (hnames _ List.mem_cons_self) (written v ++ rest)
    have hv : Reads v := hreads _ List.mem_cons_self
    simp only [skipSpace_written (hplain _ List.mem_cons_self)] at hname
    cases rest with
    | nil =>
      rw [writtenMembers, writtenMembers, Text.intercalate_single] at hf ⊢
      rw [List.length_append, List.length_cons] at hf
      rw [List.append_assoc, List.cons_append,
        membersWith_last (hname _) (hv _ _ (by omega) (endsValue_brace after)), List.reverse_cons]
    | cons n rest =>
      have hrest := ih (by simp) (fun m h => hnames m (List.mem_cons_of_mem _ h))
        (fun m h => hplain m (List.mem_cons_of_mem _ h))
        (fun m h => hreads m (List.mem_cons_of_mem _ h)) fuel ((key, v) :: done)
      have hrow : Text.intercalate [44] (writtenMembers ((key, v) :: n :: rest)) =
          writtenText key ++
            58 :: (written v ++ 44 :: Text.intercalate [44] (writtenMembers (n :: rest))) := by
        rw [writtenMembers, writtenMembers, Text.intercalate_cons_cons, List.append_assoc]
        rfl
      rw [hrow, List.length_append, List.length_cons, List.length_append, List.length_cons] at hf
      rw [hrow, List.append_assoc, List.cons_append, List.append_assoc, List.cons_append,
        membersWith_next (hname _) (hv _ _ (by omega) (endsValue_comma _)),
        skipSpace_writtenMembers, hrest (by omega), List.reverse_cons, List.append_assoc,
        List.singleton_append]

theorem reads_of_atom {v : Value} {c : CodePoint} {more : Text} (hv : written v = c :: more)
    (harray : c ≠ 91) (hobject : c ≠ 123)
    (h : ∀ rest, EndsValue rest → atom (written v ++ rest) = .ok (v, rest)) : Reads v := by
  intro fuel rest hf hr
  rw [hv, List.length_cons] at hf
  obtain ⟨fuel, rfl⟩ := Nat.exists_eq_add_one_of_ne_zero (show fuel ≠ 0 by omega)
  have hatom := h rest hr
  rw [hv, List.cons_append] at hatom ⊢
  rw [valueWith]
  · exact hatom
  · exact fun _ he => harray (List.cons.inj he).1
  · exact fun _ he => hobject (List.cons.inj he).1

theorem valueWith_array {fuel : Nat} {t : Text} (hs : skipSpace t = t)
    (hb : ∀ after, t ≠ 93 :: after) : valueWith (fuel + 1) (91 :: t) = itemsWith fuel [] t := by
  rw [valueWith, hs]
  split
  next after => exact absurd rfl (hb after)
  next => rfl

theorem reads_array {items : List Value} (hplain : ∀ v ∈ items, IsPlain v)
    (hreads : ∀ v ∈ items, Reads v) : Reads (.array items) := by
  intro fuel rest hf hr
  rw [written, List.length_cons, List.length_append, List.length_singleton] at hf
  obtain ⟨fuel, rfl⟩ := Nat.exists_eq_add_one_of_ne_zero (show fuel ≠ 0 by omega)
  rw [written, List.cons_append, List.append_assoc, List.singleton_append]
  cases items with
  | nil => rfl
  | cons v items =>
    have hv := hplain v List.mem_cons_self
    rw [valueWith_array (skipSpace_writtenItems hv _ _)]
    · exact itemsWith_written (by simp) hplain hreads fuel [] rest (by omega)
    · obtain ⟨c, more, hc, -, hne, -⟩ := hv.exists_written
      rw [writtenItems, hc]
      exact fun _ he => hne (List.cons.inj he).1

theorem valueWith_object {fuel : Nat} {t : Text} (hs : skipSpace t = t)
    (hb : ∀ after, t ≠ 125 :: after) : valueWith (fuel + 1) (123 :: t) = membersWith fuel [] t := by
  rw [valueWith, hs]
  split
  next after => exact absurd rfl (hb after)
  next => rfl

theorem reads_object {members : List (Text × Value)} (hnames : ∀ m ∈ members, m.1.IsScalar)
    (hplain : ∀ m ∈ members, IsPlain m.2) (hreads : ∀ m ∈ members, Reads m.2) :
    Reads (.object members) := by
  intro fuel rest hf hr
  rw [written, List.length_cons, List.length_append, List.length_singleton] at hf
  obtain ⟨fuel, rfl⟩ := Nat.exists_eq_add_one_of_ne_zero (show fuel ≠ 0 by omega)
  rw [written, List.cons_append, List.append_assoc, List.singleton_append]
  cases members with
  | nil => rfl
  | cons m members =>
    rw [valueWith_object (skipSpace_writtenMembers _ _ _)]
    · exact membersWith_written (by simp) hnames hplain hreads fuel [] rest (by omega)
    · rw [writtenMembers, writtenText]
      exact fun _ he => absurd (List.cons.inj he).1 (by decide)

theorem reads_integer {n : Int} (hn : (Text.ofNat n.natAbs).length ≤ Text.longestNumeral) :
    Reads (.integer n) := by
  obtain ⟨c, more, hc, hlow, hhigh⟩ := exists_ofInt n
  have harray : c ≠ 91 := by omega
  have hobject : c ≠ 123 := by omega
  exact reads_of_atom hc harray hobject fun rest hr => atom_ofInt hr hn

theorem IsPlain.reads {v : Value} (h : IsPlain v) : Reads v := by
  induction h with
  | null => exact reads_of_atom rfl (by decide) (by decide) fun _ _ => rfl
  | bool b => cases b <;> exact reads_of_atom rfl (by decide) (by decide) fun _ _ => rfl
  | integer short => exact reads_integer short
  | text scalar =>
    exact reads_of_atom rfl (by decide) (by decide) fun rest _ => atom_writtenText scalar rest
  | array plain ih => exact reads_array plain ih
  | object names values ih => exact reads_object names values ih

theorem read_of_value {t : Text} {v : Value} (hmark : t.head? ≠ some 0xFEFF)
    (hv : value (skipSpace t) = .ok (v, [])) : read t = .ok v := by
  unfold read
  split
  next => exact absurd rfl hmark
  next =>
    rw [hv]
    rfl

theorem read_written {v : Value} (h : IsPlain v) : read (written v) = .ok v := by
  obtain ⟨c, more, hc, hspace, -, hmark⟩ := h.exists_written
  have hskip : skipSpace (written v) = written v := by
    rw [hc, skipSpace_cons hspace]
  have hv := h.reads (2 * (written v).length + 2) [] (by omega) endsValue_nil
  rw [List.append_nil] at hv
  apply read_of_value
  · rw [hc]
    exact fun he => hmark (Option.some.inj he)
  · rw [hskip]
    exact hv

end SubtreePartition.Json
