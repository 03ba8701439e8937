import SubtreePartition.Proofs.Gzip.Forward
import SubtreePartition.Proofs.Gzip.RoundTrip

namespace SubtreePartition.Gzip

variable {bytes data content : Bytes} {flags : UInt8}

/-- A file that is one member, with nothing after it. -/
def IsMember (bytes content : Bytes) : Prop :=
  ∃ data out r, header? bytes = .ok (some data) ∧ inflate data = ⟨out, .ok r⟩ ∧
    trailer out.toList r.align = .ok [] ∧ out.toList = content

theorem isMember_write (content : Bytes) : IsMember (write content) content := by
  have ht := trailer_writtenTrailer content []
  rw [List.append_nil] at ht
  exact ⟨_, _, _, header?_plainHeader _, inflate_storedBlocks content (writtenTrailer content),
    ht, rfl⟩

section Header

def Passes (f : Bytes → Except Fault Bytes) : Prop :=
  ∀ bytes data, f bytes = .ok data →
    data <:+ bytes ∧ (data ≠ [] → ∀ more, f (bytes ++ more) = .ok (data ++ more))

namespace Passes

variable {f g : Bytes → Except Fault Bytes}

theorem ok : Passes .ok := by
  rintro bytes _ ⟨⟩
  exact ⟨List.suffix_rfl, fun _ _ => rfl⟩

theorem bind (hf : Passes f) (hg : Passes g) : Passes fun bytes => f bytes >>= g := by
  intro bytes data h
  obtain ⟨rest, hr, h⟩ := ok_of_bind h
  obtain ⟨hs₁, hf⟩ := hf bytes rest hr
  obtain ⟨hs, hg⟩ := hg rest data h
  refine ⟨hs.trans hs₁, fun hd more => ?_⟩
  have hrest : rest ≠ [] := by
    rintro rfl
    exact hd (List.suffix_nil.mp hs)
  dsimp only
  rw [hf hrest more]
  exact hg hd more

theorem ite (set : Bool) (hf : Passes f) (hg : Passes g) :
    Passes fun bytes => if set then f bytes else g bytes := by
  cases set with
  | true => exact hf
  | false => exact hg

end Passes

theorem passes_skip (n : Nat) : Passes (skip n) := by
  intro bytes data h
  unfold skip at h
  split at h
  · cases h
  next hn =>
    cases h
    have hn := Nat.le_of_not_lt hn
    refine ⟨List.drop_suffix n bytes, fun _ more => ?_⟩
    rw [skip, if_neg (by rw [List.length_append]; omega), List.drop_append_of_le_length hn]

theorem passes_skipExtra : Passes skipExtra := by
  intro bytes data h
  unfold skipExtra at h
  split at h
  next a b rest =>
    obtain ⟨hs, hmore⟩ := passes_skip _ rest data h
    exact ⟨hs.trans ⟨[a, b], rfl⟩, hmore⟩
  next => cases h

theorem passes_skipText : Passes fun bytes => .ok (skipText bytes) := by
  rintro bytes _ ⟨⟩
  refine ⟨(List.drop_suffix 1 _).trans (List.dropWhile_suffix _), fun hd more => ?_⟩
  unfold skipText at hd
  dsimp only [skipText]
  cases ht : bytes.dropWhile (· ≠ 0) with
  | nil =>
    rw [ht] at hd
    exact absurd rfl hd
  | cons b rest =>
    rw [List.dropWhile_append, ht]
    rfl

theorem passes_skipOptional (flags : UInt8) : Passes (skipOptional flags) := by
  have hextra := passes_skipExtra.ite (hasFlag flags 2) .ok
  have hname := passes_skipText.ite (hasFlag flags 3) .ok
  have hcomment := passes_skipText.ite (hasFlag flags 4) .ok
  have hchecksum := (passes_skip 2).ite (hasFlag flags 1) .ok
  have hall := hextra.bind (hname.bind (hcomment.bind hchecksum))
  unfold skipOptional
  generalize hasFlag flags 2 = extra at hall ⊢
  generalize hasFlag flags 3 = name at hall ⊢
  generalize hasFlag flags 4 = comment at hall ⊢
  cases extra <;> cases name <;> cases comment <;> exact hall

theorem header?_eq_some_iff : header? bytes = .ok (some data) ↔
    ∃ flags a b c d e f rest, bytes = magic ++ ([deflateMethod, flags, a, b, c, d, e, f] ++ rest) ∧
      skipOptional flags rest = .ok data := by
  constructor
  · intro h
    unfold header? at h
    split at h
    next => cases h
    next =>
      split at h
      next => cases h
      next hm =>
        split at h
        next method flags a b c d e f rest hd =>
          split at h
          next => cases h
          next hmethod =>
            obtain ⟨data', hs, he⟩ := ok_of_map h
            cases he
            refine ⟨flags, a, b, c, d, e, f, rest, ?_, hs⟩
            rw [← List.take_append_drop 2 bytes, not_not.mp hm, hd, not_not.mp hmethod]
            rfl
        next => cases h
  · rintro ⟨flags, a, b, c, d, e, f, rest, rfl, hs⟩
    simp [header?, magic, hs]
    rfl

theorem header?_append (h : header? bytes = .ok (some data)) (hd : data ≠ []) (more : Bytes) :
    header? (bytes ++ more) = .ok (some (data ++ more)) := by
  obtain ⟨flags, a, b, c, d, e, f, rest, rfl, hs⟩ := header?_eq_some_iff.mp h
  refine header?_eq_some_iff.mpr ⟨flags, a, b, c, d, e, f, rest ++ more, ?_, ?_⟩
  · simp
  · exact (passes_skipOptional flags rest data hs).2 hd more

end Header

section Trailer

theorem trailer_eq_nil (h : trailer content bytes = .ok []) :
    bytes.length = 8 ∧ ofLittleEndian (bytes.drop 4) = content.length % 2 ^ 32 := by
  unfold trailer at h
  split at h
  next => cases h
  next hshort =>
    dsimp only at h
    split at h
    next => cases h
    next =>
      split at h
      next => cases h
      next hlength =>
        have hnil : bytes.drop 8 = [] := Except.ok.inj h
        rw [List.drop_eq_nil_iff] at hnil
        have hfour : (bytes.drop 4).take 4 = bytes.drop 4 :=
          List.take_of_length_le (by rw [List.length_drop]; omega)
        rw [hfour, not_not] at hlength
        exact ⟨by omega, hlength⟩

theorem trailer_append (h : trailer content bytes = .ok []) (more : Bytes) :
    trailer content (bytes ++ more) = .ok more := by
  obtain ⟨hlen, -⟩ := trailer_eq_nil h
  have hfour : (bytes ++ more).take 4 = bytes.take 4 :=
    List.take_append_of_le_length (by omega)
  have hmid : ((bytes ++ more).drop 4).take 4 = (bytes.drop 4).take 4 := by
    rw [List.drop_append_of_le_length (by omega), List.take_append_of_le_length]
    rw [List.length_drop]
    omega
  have hdrop : (bytes ++ more).drop 8 = more := List.drop_left' hlen
  have hlong : ¬(bytes ++ more).length < 8 := by
    rw [List.length_append]
    omega
  unfold trailer at h ⊢
  rw [if_neg (by omega)] at h
  rw [if_neg hlong, hfour, hmid, hdrop]
  dsimp only at h ⊢
  split at h
  next => cases h
  next hsum =>
    rw [if_neg hsum]
    split at h
    next => cases h
    next hlength => rw [if_neg hlength]

end Trailer

theorem exists_trailer_of_isMember (h : IsMember bytes content) :
    bytes.take 2 = magic ∧ ∃ front tail, bytes = front ++ tail ∧ 10 ≤ front.length ∧
      tail.length = 8 ∧ ofLittleEndian (tail.drop 4) = content.length % 2 ^ 32 := by
  obtain ⟨data, out, r, hh, hi, ht, rfl⟩ := h
  obtain ⟨flags, a, b, c, d, e, f, rest, rfl, hs⟩ := header?_eq_some_iff.mp hh
  obtain ⟨more, rfl⟩ := (passes_skipOptional flags rest data hs).1
  obtain ⟨stream, rfl⟩ := (inflate_append hi).1
  obtain ⟨hlength, hstates⟩ := trailer_eq_nil ht
  refine ⟨rfl, magic ++ ([deflateMethod, flags, a, b, c, d, e, f] ++ (more ++ stream)), r.align,
    by simp, ?_, hlength, hstates⟩
  simp [magic]

section Members

theorem inflate_nil_ne (out : Array UInt8) (r : BitReader) : inflate [] ≠ ⟨out, .ok r⟩ :=
  nofun

theorem membersFrom_append (h : IsMember bytes content) (more : Bytes) (fuel : Nat) :
    membersFrom (fuel + 1) (bytes ++ more) =
      (membersFrom fuel (more.dropWhile (· = 0))).after content := by
  obtain ⟨data, out, r, hh, hi, ht, rfl⟩ := h
  have hdata : data ≠ [] := by
    rintro rfl
    exact inflate_nil_ne out r hi
  have hm : member (data ++ more) = (out.toList, .ok (more.dropWhile (· = 0))) := by
    have htrailer : trailer out.toList (r.append more).align = .ok more := trailer_append ht more
    rw [member, (inflate_append hi).2 more]
    simp only [htrailer]
    rfl
  rw [membersFrom, header?_append hh hdata]
  simp only [hm]

variable {files contents : List Bytes}

theorem membersFrom_nil (fuel : Nat) : membersFrom fuel [] = ⟨[], none⟩ := by
  cases fuel <;> rfl

theorem dropWhile_zero_of_isMember (h : IsMember bytes content) (more : Bytes) :
    (bytes ++ more).dropWhile (· = 0) = bytes ++ more := by
  obtain ⟨data, out, r, hh, -⟩ := h
  obtain ⟨flags, a, b, c, d, e, f, rest, rfl, hs⟩ := header?_eq_some_iff.mp hh
  rfl

theorem membersFrom_members (h : List.Forall₂ IsMember files contents) {fuel : Nat}
    (hf : files.length < fuel) : membersFrom fuel files.flatten = ⟨contents.flatten, none⟩ := by
  induction h generalizing fuel with
  | nil => exact membersFrom_nil fuel
  | @cons bytes content files contents hm hrest ih =>
    obtain ⟨fuel, rfl⟩ := Nat.exists_eq_add_of_le' (Nat.one_le_of_lt hf)
    have hzero : files.flatten.dropWhile (· = 0) = files.flatten := by
      cases hrest with
      | nil => rfl
      | cons hm => exact dropWhile_zero_of_isMember hm _
    rw [List.length_cons] at hf
    rw [List.flatten_cons, membersFrom_append hm, hzero, ih (by omega)]
    rfl

theorem length_le_flatten_of_members (h : List.Forall₂ IsMember files contents) :
    files.length ≤ files.flatten.length := by
  induction h with
  | nil => exact Nat.zero_le _
  | cons hm _ ih =>
    obtain ⟨-, front, tail, rfl, hfront, -⟩ := exists_trailer_of_isMember hm
    simp only [List.flatten_cons, List.length_append, List.length_cons] at ih ⊢
    omega

theorem read_members (h : List.Forall₂ IsMember files contents) :
    read files.flatten = ⟨contents.flatten, none⟩ :=
  membersFrom_members h (Nat.lt_succ_of_le (length_le_flatten_of_members h))

theorem read_of_isMember (h : IsMember bytes content) : read bytes = ⟨content, none⟩ := by
  simpa using read_members (.cons h .nil)

end Members

end SubtreePartition.Gzip
