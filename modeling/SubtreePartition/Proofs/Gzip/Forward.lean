import SubtreePartition.Gzip.Member
import SubtreePartition.Proofs.Fallible

namespace SubtreePartition.Gzip

variable {α β : Type} {r r' : BitReader} {out out' : Array UInt8} {fuel : Nat}

def BitReader.append (r : BitReader) (more : Bytes) : BitReader :=
  { r with rest := r.rest ++ more }

/-- What is left is the end of what was left before, and what stands behind it is not looked at. -/
def IsLocal (f : BitReader → Except Break (α × BitReader)) : Prop :=
  ∀ r a r', f r = .ok (a, r') →
    r'.rest <:+ r.rest ∧ ∀ more, f (r.append more) = .ok (a, r'.append more)

namespace IsLocal

theorem pure (a : α) : IsLocal fun r => .ok (a, r) := by
  rintro r _ _ ⟨⟩
  exact ⟨List.suffix_rfl, fun _ => rfl⟩

theorem error (b : Break) : IsLocal (α := α) fun _ => .error b :=
  nofun

theorem bind {f : BitReader → Except Break (α × BitReader)}
    {g : α × BitReader → Except Break (β × BitReader)} (hf : IsLocal f)
    (hg : ∀ a, IsLocal fun r => g (a, r)) : IsLocal fun r => f r >>= g := by
  intro r b r' h
  obtain ⟨⟨a, r₁⟩, ha, hb⟩ := ok_of_bind h
  obtain ⟨hs₁, hf⟩ := hf r a r₁ ha
  obtain ⟨hs, hg⟩ := hg a r₁ b r' hb
  refine ⟨hs.trans hs₁, fun more => ?_⟩
  dsimp only
  rw [hf more]
  exact hg more

theorem after {x : Except Break α} {g : α → BitReader → Except Break (β × BitReader)}
    (hg : ∀ a, IsLocal (g a)) : IsLocal fun r => x >>= fun a => g a r := by
  cases x with
  | error b => exact .error b
  | ok a => exact hg a

theorem ite {p : Prop} {_ : Decidable p} {f g : BitReader → Except Break (α × BitReader)}
    (hf : IsLocal f) (hg : IsLocal g) : IsLocal fun r => if p then f r else g r := by
  by_cases hp : p
  · simpa only [if_pos hp] using hf
  · simpa only [if_neg hp] using hg

end IsLocal

open BitReader

theorem takeFrom_append {n held count v : Nat} {bytes : Bytes}
    (h : takeFrom n held count bytes = some (v, r)) :
    r.rest <:+ bytes ∧
      ∀ more, takeFrom n held count (bytes ++ more) = some (v, r.append more) := by
  induction bytes generalizing held count with
  | nil =>
    unfold takeFrom at h
    split at h
    next hn =>
      cases h
      refine ⟨List.suffix_rfl, fun more => ?_⟩
      cases more <;> simp [takeFrom, hn, BitReader.append]
    next => cases h
  | cons b bytes ih =>
    unfold takeFrom at h
    split at h
    next hn =>
      cases h
      exact ⟨List.suffix_rfl, fun more => by simp [takeFrom, hn, BitReader.append]⟩
    next hn =>
      obtain ⟨hs, ha⟩ := ih h
      refine ⟨hs.trans (List.suffix_cons b bytes), fun more => ?_⟩
      rw [List.cons_append, takeFrom, if_neg hn, ha]

namespace Inflate

theorem isLocal_bits (n : Nat) : IsLocal (bits n) := by
  intro r v r' h
  unfold bits at h
  split at h
  next ht =>
    cases h
    obtain ⟨hs, ha⟩ := takeFrom_append ht
    refine ⟨hs, fun more => ?_⟩
    unfold bits BitReader.take
    rw [BitReader.append, ha]
  next => cases h

end Inflate

theorem PrefixCode.decode_branch (zero one : PrefixCode) (r : BitReader) :
    (branch zero one).decode r = (do
      let (bit, r) ← Inflate.bits 1 r
      if bit = 0 then zero.decode r else one.decode r) := by
  rw [decode, Inflate.bits]
  rcases r.take 1 with - | ⟨- | bit, r⟩ <;> rfl

theorem PrefixCode.isLocal_decode (code : PrefixCode) : IsLocal code.decode := by
  induction code with
  | unused => exact .error .corrupt
  | symbol s => exact .pure s
  | branch zero one ihz iho =>
    rw [funext (decode_branch zero one)]
    exact (Inflate.isLocal_bits 1).bind fun bit => ihz.ite iho

namespace Inflate

theorem isLocal_number (table : List (Nat × Nat)) (symbol : Nat) :
    IsLocal (number table symbol) := by
  unfold number
  cases table[symbol]? with
  | none => exact .error .corrupt
  | some entry => exact (isLocal_bits entry.2).bind fun more => .pure (entry.1 + more)

theorem isLocal_repetition (distanceCode : PrefixCode) (symbol : Nat) :
    IsLocal (repetition distanceCode symbol) :=
  (isLocal_number lengths _).bind fun length =>
    (distanceCode.isLocal_decode).bind fun symbol =>
      (isLocal_number distances symbol).bind fun distance => .pure (length, distance)

theorem isLocal_action (literalCode distanceCode : PrefixCode) :
    IsLocal (Inflate.action literalCode distanceCode) := by
  refine (literalCode.isLocal_decode).bind fun symbol => ?_
  refine .ite (.pure _) (.ite (.pure _) ?_)
  exact (isLocal_repetition distanceCode symbol).bind fun pair => .pure _

theorem isLocal_smallNumbers (n : Nat) : IsLocal (smallNumbers n) := by
  induction n with
  | zero => exact .pure []
  | succ n ih => exact (isLocal_bits 3).bind fun x => ih.bind fun xs => .pure (x :: xs)

theorem isLocal_run (symbol : Nat) (done : List Nat) : IsLocal (run symbol done) := by
  unfold run
  split
  · refine (isLocal_bits 2).bind fun n => ?_
    cases done with
    | nil => exact .error .corrupt
    | cons last done => exact .pure _
  · split
    · exact (isLocal_bits 3).bind fun n => .pure _
    · exact (isLocal_bits 7).bind fun n => .pure _

theorem isLocal_codeLengths (code : PrefixCode) (total fuel : Nat) (done : List Nat) :
    IsLocal (codeLengths code total fuel done) := by
  induction fuel generalizing done with
  | zero => exact .error .ended
  | succ fuel ih =>
    refine .ite (.pure _) (code.isLocal_decode.bind fun symbol => ?_)
    refine .ite (ih _) ((isLocal_run symbol done).bind fun pair => ?_)
    exact .ite (.error .corrupt) (ih _)

theorem isLocal_ownCodes : IsLocal ownCodes := by
  refine (isLocal_bits 5).bind fun n => (isLocal_bits 5).bind fun m => (isLocal_bits 4).bind
    fun k => .ite (.error .corrupt) ?_
  refine (isLocal_smallNumbers _).bind fun given => .after fun code => ?_
  refine (isLocal_codeLengths code _ _ []).bind fun lengths => .ite (.error .corrupt) ?_
  exact .after fun literalCode => .after fun distanceCode => .pure (literalCode, distanceCode)

def Goes (f : Nat → BitReader → Step) (fuel : Nat) (r : BitReader) (out : Array UInt8)
    (r' : BitReader) : Prop :=
  r'.rest <:+ r.rest ∧
    ∀ more fuel', fuel ≤ fuel' → f fuel' (r.append more) = ⟨out, .ok (r'.append more)⟩

theorem Goes.step {f : Nat → BitReader → Step} {g : Nat → BitReader → Step} {r₁ : BitReader}
    (h : Goes g fuel r₁ out r') (hs : r₁.rest <:+ r.rest)
    (hf : ∀ fuel' more, f (fuel' + 1) (r.append more) = g fuel' (r₁.append more)) :
    Goes f (fuel + 1) r out r' := by
  refine ⟨h.1.trans hs, fun more fuel' hle => ?_⟩
  obtain ⟨fuel', rfl⟩ := Nat.exists_eq_add_of_le' (Nat.le_trans (Nat.le_add_left 1 fuel) hle)
  rw [hf]
  exact h.2 more fuel' (by omega)

theorem goes_ok (fuel : Nat) (out : Array UInt8) (r : BitReader) :
    Goes (fun _ r => ⟨out, .ok r⟩) fuel r out r :=
  ⟨List.suffix_rfl, fun _ _ _ => rfl⟩

theorem goes_symbols {literalCode distanceCode : PrefixCode}
    (h : symbols literalCode distanceCode fuel out r = ⟨out', .ok r'⟩) :
    Goes (symbols literalCode distanceCode · out) fuel r out' r' := by
  induction fuel generalizing out r with
  | zero => cases h
  | succ fuel ih =>
    unfold symbols at h
    cases ha : action literalCode distanceCode r with
    | error b =>
      rw [ha] at h
      cases h
    | ok taken =>
      obtain ⟨action, r₁⟩ := taken
      obtain ⟨hs, hmore⟩ := isLocal_action literalCode distanceCode r action r₁ ha
      rw [ha] at h
      cases action with
      | octet b => exact (ih h).step hs fun fuel' more => by simp only [symbols, hmore]
      | stop =>
        cases h
        exact (goes_ok fuel _ _).step hs fun fuel' more => by simp only [symbols, hmore]
      | again length distance =>
        dsimp only at h
        split at h
        · cases h
        next hd => exact (ih h).step hs fun fuel' more => by simp only [symbols, hmore, if_neg hd]

theorem stored_append_of_ok {bytes : Bytes} (h : stored out bytes = ⟨out', .ok r⟩) :
    r.rest <:+ bytes ∧ ∀ more, stored out (bytes ++ more) = ⟨out', .ok (r.append more)⟩ := by
  unfold stored at h
  split at h
  next a b c d rest =>
    dsimp only at h
    split at h
    next => cases h
    next hsize =>
      split at h
      next => cases h
      next hlen =>
        cases h
        refine ⟨(List.drop_suffix _ rest).trans ⟨[a, b, c, d], rfl⟩, fun more => ?_⟩
        have hlen' := Nat.le_of_not_lt hlen
        have hlong : ¬(rest ++ more).length < a.toNat + 256 * b.toNat := by
          rw [List.length_append]
          omega
        simp only [stored, List.cons_append, if_neg hsize, if_neg hlong,
          List.take_append_of_le_length hlen', List.drop_append_of_le_length hlen']
        rfl
  next => cases h

theorem block_append {kind : Nat} (h : block kind out r = ⟨out', .ok r'⟩) :
    r'.rest <:+ r.rest ∧ ∀ more, block kind out (r.append more) = ⟨out', .ok (r'.append more)⟩ := by
  have hsize : ∀ (r : BitReader) (more : Bytes), r.size + 1 ≤ (r.append more).size + 1 := by
    intro r more
    simp only [BitReader.size, BitReader.append, List.length_append]
    omega
  unfold block at h
  split at h
  next hk =>
    obtain ⟨hs, hmore⟩ := stored_append_of_ok h
    exact ⟨hs, fun more => (if_pos hk).trans (hmore more)⟩
  next hk =>
    split at h
    next hf =>
      obtain ⟨hs, hmore⟩ := goes_symbols h
      exact ⟨hs, fun more => by rw [block, if_neg hk, if_pos hf]; exact hmore more _ (hsize r more)⟩
    next hf =>
      split at h
      next ho =>
        cases hown : ownCodes r with
        | error b =>
          rw [hown] at h
          cases h
        | ok taken =>
          obtain ⟨⟨literalCode, distanceCode⟩, r₁⟩ := taken
          rw [hown] at h
          obtain ⟨hs₁, hcodes⟩ := isLocal_ownCodes r _ r₁ hown
          obtain ⟨hs, hmore⟩ := goes_symbols h
          refine ⟨hs.trans hs₁, fun more => ?_⟩
          rw [block, if_neg hk, if_neg hf, if_pos ho, hcodes]
          exact hmore more _ (hsize r₁ more)
      next => cases h

theorem goes_blocks (h : blocks fuel out r = ⟨out', .ok r'⟩) :
    Goes (blocks · out) fuel r out' r' := by
  induction fuel generalizing out r with
  | zero => cases h
  | succ fuel ih =>
    unfold blocks at h
    cases hb : bits 3 r with
    | error b =>
      rw [hb] at h
      cases h
    | ok taken =>
      obtain ⟨head, r₁⟩ := taken
      obtain ⟨hs₁, hbits⟩ := isLocal_bits 3 r head r₁ hb
      rw [hb] at h
      dsimp only at h
      split at h
      next => cases h
      next out₂ r₂ hblock =>
        obtain ⟨hs₂, hmore⟩ := block_append hblock
        split at h
        next hlast =>
          cases h
          exact (goes_ok fuel _ _).step (hs₂.trans hs₁) fun fuel' more => by
            simp only [blocks, hbits, hmore, if_pos hlast]
        next hlast =>
          exact (ih h).step (hs₂.trans hs₁) fun fuel' more => by
            simp only [blocks, hbits, hmore, if_neg hlast]

end Inflate

theorem inflate_append {bytes : Bytes} (h : inflate bytes = ⟨out, .ok r⟩) :
    r.align <:+ bytes ∧ ∀ more, inflate (bytes ++ more) = ⟨out, .ok (r.append more)⟩ := by
  obtain ⟨hs, hmore⟩ := Inflate.goes_blocks h
  refine ⟨hs, fun more => hmore more _ ?_⟩
  rw [List.length_append]
  omega

end SubtreePartition.Gzip
