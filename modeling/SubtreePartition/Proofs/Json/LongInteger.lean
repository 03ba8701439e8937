import Mathlib.Data.List.TakeWhile
import SubtreePartition.Proofs.Fallible
import SubtreePartition.Proofs.Json.RoundTrip

namespace SubtreePartition.Json

variable {α β : Type} {t rest : Text} {c : CodePoint} {n : Nat}

def HasLongInteger (t : Text) (n : Nat) : Prop :=
  Text.longestNumeral < n ∧ ∃ front digits back, t = front ++ (digits ++ back) ∧
    digits.length = n ∧ (∀ c ∈ digits, Text.isDigit c = true) ∧ digits.head? ≠ some 48 ∧
    (∀ c, back.head? = some c → Text.isDigit c = false) ∧
    (fractionPart back).1 = [] ∧ (exponentPart back).1 = []

theorem HasLongInteger.of_suffix (h : HasLongInteger rest n) (hs : rest <:+ t) :
    HasLongInteger t n := by
  obtain ⟨hn, front, digits, back, rfl, h⟩ := h
  obtain ⟨before, rfl⟩ := hs
  exact ⟨hn, before ++ front, digits, back, by rw [List.append_assoc], h⟩

theorem HasLongInteger.lt_length (h : HasLongInteger t n) : Text.longestNumeral < t.length := by
  obtain ⟨hn, front, digits, back, rfl, rfl, -⟩ := h
  rw [List.length_append, List.length_append]
  omega

structure Keeps (t : Text) (x : Except Fault (α × Text)) : Prop where
  left : ∀ v rest, x = .ok (v, rest) → rest <:+ t
  long : ∀ n, x = .error (.longInteger n) → HasLongInteger t n

theorem keeps_ok {v : α} (h : rest <:+ t) : Keeps t (.ok (v, rest)) where
  left := by
    intro v' rest' he
    cases he
    exact h
  long := by simp

theorem keeps_error {fault : Fault} (h : ∀ n, fault ≠ .longInteger n) :
    Keeps (α := α) t (.error fault) where
  left := by simp
  long := fun n he => absurd (Except.error.inj he) (h n)

theorem Keeps.of_suffix {x : Except Fault (α × Text)} (h : Keeps rest x) (hs : rest <:+ t) :
    Keeps t x where
  left := fun v more he => (h.left v more he).trans hs
  long := fun n he => (h.long n he).of_suffix hs

theorem Keeps.bind {x : Except Fault (α × Text)} {f : α × Text → Except Fault (β × Text)}
    (h : Keeps t x) (hf : ∀ v rest, rest <:+ t → Keeps rest (f (v, rest))) :
    Keeps t (x.bind f) where
  left := by
    intro v more he
    obtain ⟨⟨w, rest⟩, hx, he⟩ := ok_of_bind he
    have hrest := h.left w rest hx
    exact ((hf w rest hrest).left v more he).trans hrest
  long := by
    intro n he
    rcases error_of_bind he with hx | ⟨⟨w, rest⟩, hx, he⟩
    · exact h.long n hx
    · have hrest := h.left w rest hx
      exact ((hf w rest hrest).long n he).of_suffix hrest

theorem Keeps.map {x : Except Fault (α × Text)} {f : α → β} (h : Keeps t x) :
    Keeps t (x.map fun p => (f p.1, p.2)) where
  left := by
    intro v more he
    obtain ⟨⟨w, rest⟩, hx, he⟩ := ok_of_map he
    cases he
    exact h.left w rest hx
  long := by
    intro n he
    cases x with
    | ok p => cases he
    | error fault => exact h.long n (congrArg _ (Except.error.inj he))

theorem suffix_skipSpace (t : Text) : skipSpace t <:+ t :=
  List.dropWhile_suffix _

theorem keeps_stringFrom (done : Text) (skip : Nat) (t : Text) :
    Keeps t (stringFrom done skip t) := by
  fun_induction stringFrom done skip t <;>
    first
    | exact keeps_error (by simp)
    | exact keeps_ok (List.suffix_cons _ _)
    | exact Keeps.of_suffix ‹_› (List.suffix_cons _ _)

theorem keeps_string (t : Text) : Keeps t (string t) :=
  keeps_stringFrom [] 0 t

theorem suffix_dropWhile_cons (p : CodePoint → Bool) (c : CodePoint) (t : Text) :
    t.dropWhile p <:+ c :: t :=
  (List.dropWhile_suffix p).trans (List.suffix_cons c t)

theorem wholePart_cases (t : Text) :
    (∃ rest, t = 48 :: rest ∧ wholePart t = ([48], rest)) ∨
      (t.head? ≠ some 48 ∧
        wholePart t = (t.takeWhile Text.isDigit, t.dropWhile Text.isDigit)) := by
  unfold wholePart
  split
  next rest => exact .inl ⟨rest, rfl, rfl⟩
  next hzero => exact .inr ⟨fun h => hzero _ (List.head?_eq_some_iff.mp h).choose_spec, rfl⟩

theorem suffix_fractionPart (t : Text) : (fractionPart t).2 <:+ t := by
  unfold fractionPart
  split
  next d rest =>
    split
    next => exact (suffix_dropWhile_cons _ d rest).trans (List.suffix_cons 46 _)
    next => exact List.suffix_refl _
  next => exact List.suffix_refl _

theorem fractionPart_of_nil (h : (fractionPart t).1 = []) : (fractionPart t).2 = t := by
  unfold fractionPart at h ⊢
  split
  next d rest =>
    split
    next hd => simp [hd] at h
    next => rfl
  next => rfl

theorem suffix_exponentSign (t : Text) : (exponentSign t).2 <:+ t := by
  unfold exponentSign
  split
  next rest => exact List.suffix_cons 43 rest
  next rest => exact List.suffix_cons 45 rest
  next => exact List.suffix_refl _

theorem suffix_exponentPart (t : Text) : (exponentPart t).2 <:+ t := by
  cases t with
  | nil => exact List.suffix_refl _
  | cons e rest =>
    simp only [exponentPart]
    split
    next =>
      split
      next => exact List.suffix_refl _
      next =>
        exact (List.dropWhile_suffix _).trans
          ((suffix_exponentSign rest).trans (List.suffix_cons e rest))
    next => exact List.suffix_refl _

theorem hasLongInteger_of_wholePart (hn : Text.longestNumeral < (wholePart t).1.length)
    (hf : (fractionPart (wholePart t).2).1 = []) (he : (exponentPart (wholePart t).2).1 = []) :
    HasLongInteger t (wholePart t).1.length := by
  rcases wholePart_cases t with ⟨rest, rfl, hwhole⟩ | ⟨hzero, hwhole⟩
  · rw [hwhole] at hn
    have hone : ¬ Text.longestNumeral < 1 := by decide
    exact absurd hn hone
  · rw [hwhole] at hn hf he ⊢
    refine ⟨hn, [], t.takeWhile Text.isDigit, t.dropWhile Text.isDigit, ?_, rfl, ?_, ?_, ?_, hf, he⟩
    · rw [List.nil_append, List.takeWhile_append_dropWhile]
    · exact fun c hc => List.all_eq_true.mp List.all_takeWhile c hc
    · intro h
      obtain ⟨more, hmore⟩ := List.head?_eq_some_iff.mp h
      have hprefix := List.takeWhile_prefix (l := t) Text.isDigit
      rw [hmore] at hprefix
      obtain ⟨back, rfl⟩ := hprefix
      exact hzero rfl
    · intro c hc
      have hnot := List.head?_dropWhile_not Text.isDigit t
      rw [hc] at hnot
      exact hnot

theorem suffix_wholePart (t : Text) : (wholePart t).2 <:+ t := by
  rcases wholePart_cases t with ⟨rest, rfl, hwhole⟩ | ⟨-, hwhole⟩
  · rw [hwhole]
    exact List.suffix_cons 48 rest
  · rw [hwhole]
    exact List.dropWhile_suffix _

theorem keeps_magnitude (negative : Bool) (t : Text) : Keeps t (magnitude negative t) := by
  have hrest : (exponentPart (fractionPart (wholePart t).2).2).2 <:+ t :=
    ((suffix_exponentPart _).trans (suffix_fractionPart _)).trans (suffix_wholePart t)
  simp only [magnitude, Bool.and_eq_true, List.isEmpty_iff]
  split
  next => exact keeps_error (by simp)
  next =>
    split
    next hplain =>
      obtain ⟨hf, he⟩ := hplain
      rw [fractionPart_of_nil hf] at he
      split
      next hn =>
        refine ⟨by simp, fun n h => ?_⟩
        cases h
        exact hasLongInteger_of_wholePart hn hf he
      next =>
        split
        next => exact keeps_ok hrest
        next => exact keeps_error (by simp)
    next => exact keeps_ok hrest

theorem keeps_number (t : Text) : Keeps t (number t) := by
  unfold number
  split
  next rest => exact (keeps_magnitude true rest).of_suffix (List.suffix_cons 45 rest)
  next => exact keeps_magnitude false t

theorem suffix_of_word? {v : Value} (h : word? t = some (v, rest)) : rest <:+ t := by
  rw [word?, Option.map_eq_some_iff] at h
  obtain ⟨w, -, h⟩ := h
  rw [← (Prod.mk.inj h).2]
  exact List.drop_suffix _ t

theorem keeps_atom (t : Text) : Keeps t (atom t) := by
  unfold atom
  split
  next rest => exact (keeps_string rest).map.of_suffix (List.suffix_cons 34 rest)
  next =>
    split
    next found h => exact keeps_ok (suffix_of_word? h)
    next => exact keeps_number t

theorem suffix_of_skipSpace (h : skipSpace t = c :: rest) : rest <:+ t :=
  (List.suffix_cons c rest).trans (h ▸ suffix_skipSpace t)

theorem keeps_name (t : Text) : Keeps t (name t) := by
  unfold name
  split
  next rest =>
    refine Keeps.of_suffix ?_ (List.suffix_cons 34 rest)
    refine (keeps_string rest).bind fun key more _ => ?_
    dsimp only
    split
    next after h => exact keeps_ok ((suffix_skipSpace after).trans (suffix_of_skipSpace h))
    next => exact keeps_error (by simp)
  next => exact keeps_error (by simp)

theorem keeps_step {fuel : Nat} (hvalue : ∀ t, Keeps t (valueWith fuel t))
    (hitems : ∀ done t, Keeps t (itemsWith fuel done t))
    (hmembers : ∀ done t, Keeps t (membersWith fuel done t)) :
    (∀ t, Keeps t (valueWith (fuel + 1) t)) ∧ (∀ done t, Keeps t (itemsWith (fuel + 1) done t)) ∧
      ∀ done t, Keeps t (membersWith (fuel + 1) done t) := by
  refine ⟨fun t => ?_, fun done t => ?_, fun done t => ?_⟩
  · unfold valueWith
    split
    next rest =>
      split
      next after h => exact keeps_ok ((suffix_of_skipSpace h).trans (List.suffix_cons 91 rest))
      next =>
        exact (hitems [] _).of_suffix ((suffix_skipSpace rest).trans (List.suffix_cons 91 rest))
    next rest =>
      split
      next after h => exact keeps_ok ((suffix_of_skipSpace h).trans (List.suffix_cons 123 rest))
      next =>
        exact (hmembers [] _).of_suffix ((suffix_skipSpace rest).trans (List.suffix_cons 123 rest))
    next => exact keeps_atom t
  · unfold itemsWith
    refine (hvalue t).bind fun v more _ => ?_
    dsimp only
    split
    next after h => exact keeps_ok (suffix_of_skipSpace h)
    next after h =>
      exact (hitems (v :: done) _).of_suffix
        ((suffix_skipSpace after).trans (suffix_of_skipSpace h))
    next => exact keeps_error (by simp)
  · unfold membersWith
    refine (keeps_name t).bind fun key more _ => (hvalue more).bind fun v more _ => ?_
    dsimp only
    split
    next after h => exact keeps_ok (suffix_of_skipSpace h)
    next after h =>
      exact (hmembers ((key, v) :: done) _).of_suffix
        ((suffix_skipSpace after).trans (suffix_of_skipSpace h))
    next => exact keeps_error (by simp)

theorem keeps_with (fuel : Nat) :
    (∀ t, Keeps t (valueWith fuel t)) ∧ (∀ done t, Keeps t (itemsWith fuel done t)) ∧
      ∀ done t, Keeps t (membersWith fuel done t) := by
  induction fuel with
  | zero => exact ⟨fun _ => keeps_error (by simp), fun _ _ => keeps_error (by simp),
      fun _ _ => keeps_error (by simp)⟩
  | succ fuel ih => exact keeps_step ih.1 ih.2.1 ih.2.2

theorem keeps_value (t : Text) : Keeps t (value t) :=
  (keeps_with _).1 t

theorem hasLongInteger_of_read (h : read t = .error (.longInteger n)) : HasLongInteger t n := by
  unfold read at h
  split at h
  next => cases h
  next =>
    rcases error_of_bind h with h | ⟨⟨v, rest⟩, -, h⟩
    · exact ((keeps_value _).long n h).of_suffix (suffix_skipSpace t)
    · dsimp only at h
      split at h <;> cases h

theorem magnitude_digits {digits : Text} (negative : Bool)
    (hn : Text.longestNumeral < digits.length) (hd : ∀ c ∈ digits, Text.isDigit c = true)
    (hzero : digits.head? ≠ some 48) :
    magnitude negative digits = .error (.longInteger digits.length) := by
  have hne : digits ≠ [] := List.ne_nil_of_length_pos (Nat.zero_lt_of_lt hn)
  have hwhole : wholePart digits = (digits, []) := by
    rcases wholePart_cases digits with ⟨rest, rfl, -⟩ | ⟨-, hwhole⟩
    · exact absurd rfl hzero
    · rw [hwhole, List.takeWhile_eq_self_iff.mpr hd, List.dropWhile_eq_nil_iff.mpr hd]
  have hempty : digits.isEmpty = false := by simpa using hne
  simp only [magnitude, hwhole, hempty, if_pos hn]
  rfl

theorem isSpace_digit {d : Nat} (hd : 48 ≤ d ∧ d ≤ 57) : isSpace d = false := by
  have h32 : d ≠ 32 := by omega
  have h9 : d ≠ 9 := by omega
  have h10 : d ≠ 10 := by omega
  have h13 : d ≠ 13 := by omega
  simp [isSpace, h32, h9, h10, h13]

theorem cons_digit_ne {d c : Nat} (hd : 48 ≤ d ∧ d ≤ 57) (hc : c < 48 ∨ 57 < c) :
    d :: t ≠ c :: rest := by
  intro he
  have hhead : d = c := (List.cons.inj he).1
  omega

theorem value_digit {d : Nat} (hd : 48 ≤ d ∧ d ≤ 57) (t : Text) :
    value (d :: t) = magnitude false (d :: t) := by
  rw [value, valueWith, atom, word?_digit hd]
  · exact number.eq_2 _ fun _ => cons_digit_ne hd (by decide)
  · exact fun _ => cons_digit_ne hd (by decide)
  · exact fun _ => cons_digit_ne hd (by decide)
  · exact fun _ => cons_digit_ne hd (by decide)

theorem read_digits {digits : Text} (hn : Text.longestNumeral < digits.length)
    (hd : ∀ c ∈ digits, Text.isDigit c = true) (hzero : digits.head? ≠ some 48) :
    read digits = .error (.longInteger digits.length) := by
  have hmagnitude := magnitude_digits false hn hd hzero
  cases digits with
  | nil => exact absurd hn (Nat.not_lt_zero _)
  | cons d more =>
    have hdigit : 48 ≤ d ∧ d ≤ 57 := by simpa [Text.isDigit] using hd d List.mem_cons_self
    have hspace : skipSpace (d :: more) = d :: more := skipSpace_cons (isSpace_digit hdigit) more
    rw [read, hspace, value_digit hdigit, hmagnitude]
    · rfl
    · exact fun _ => cons_digit_ne hdigit (by decide)

end SubtreePartition.Json
