import Mathlib.Data.Nat.ModEq
import SubtreePartition.Gzip.Member

namespace SubtreePartition.Gzip

theorem littleEndian_zero (n : Nat) : littleEndian 0 n = [] := rfl

theorem littleEndian_succ (width n : Nat) :
    littleEndian (width + 1) n = UInt8.ofNat n :: littleEndian width (n / 256) := by
  simp only [littleEndian, List.range_succ_eq_map, List.map_cons, List.map_map]
  congr 1
  · simp
  · refine List.map_congr_left fun i _ => ?_
    have h : n / 256 ^ (i + 1) = n / 256 / 256 ^ i := by
      rw [Nat.pow_succ', Nat.div_div_eq_div_mul]
    simpa using congrArg UInt8.ofNat h

@[simp]
theorem length_littleEndian (width n : Nat) : (littleEndian width n).length = width := by
  simp [littleEndian]

theorem ofLittleEndian_cons (b : UInt8) (bytes : Bytes) :
    ofLittleEndian (b :: bytes) = b.toNat + 256 * ofLittleEndian bytes := rfl

theorem ofLittleEndian_littleEndian (width n : Nat) :
    ofLittleEndian (littleEndian width n) = n % 256 ^ width := by
  induction width generalizing n with
  | zero => simp [littleEndian_zero, ofLittleEndian, Nat.mod_one]
  | succ width ih =>
    rw [littleEndian_succ, ofLittleEndian_cons, ih, Nat.pow_succ']
    have hb : (UInt8.ofNat n).toNat = n % 256 := by simp
    rw [hb]
    exact (Nat.mod_mul).symm

theorem storedBlocks_eq (content : Bytes) :
    storedBlocks content =
      if content.length ≤ longestBlock then storedBlock true content
      else storedBlock false (content.take longestBlock) ++
        storedBlocks (content.drop longestBlock) := by
  rw [storedBlocks]

namespace Inflate

theorem bits_head (b : UInt8) (rest : Bytes) :
    bits 3 (.ofBytes (b :: rest)) = .ok (b.toNat % 8, ⟨b.toNat / 8, 5, rest⟩) := by
  cases rest <;> simp [bits, BitReader.take, BitReader.ofBytes, BitReader.takeFrom]

theorem stored_append (out : Array UInt8) (content rest : Bytes)
    (h : content.length ≤ longestBlock) :
    stored out (littleEndian 2 content.length ++
        (littleEndian 2 (0xFFFF - content.length) ++ content) ++ rest) =
      ⟨out ++ content, .ok (.ofBytes rest)⟩ := by
  have hl : content.length ≤ 65535 := h
  simp only [littleEndian_succ, littleEndian_zero, List.cons_append, List.nil_append, stored]
  have h1 : (UInt8.ofNat content.length).toNat +
      256 * (UInt8.ofNat (content.length / 256)).toNat = content.length := by
    simp only [UInt8.toNat_ofNat']
    omega
  have h2 : (UInt8.ofNat (0xFFFF - content.length)).toNat +
      256 * (UInt8.ofNat ((0xFFFF - content.length) / 256)).toNat = 0xFFFF - content.length := by
    simp only [UInt8.toNat_ofNat']
    omega
  rw [h1, h2, if_neg (by omega), if_neg (by simp)]
  simp

theorem blocks_storedBlock_last (out : Array UInt8) (content rest : Bytes) (fuel : Nat)
    (h : content.length ≤ longestBlock) :
    blocks (fuel + 1) out (.ofBytes (storedBlock true content ++ rest)) =
      ⟨out ++ content, .ok (.ofBytes rest)⟩ := by
  simp only [storedBlock, if_true, List.cons_append, blocks, bits_head]
  simp only [UInt8.toNat_one, Nat.reduceMod, Nat.reduceDiv, block, if_true, BitReader.align]
  rw [stored_append out content rest h]

theorem blocks_storedBlock_more (out : Array UInt8) (content rest : Bytes) (fuel : Nat)
    (h : content.length ≤ longestBlock) :
    blocks (fuel + 1) out (.ofBytes (storedBlock false content ++ rest)) =
      blocks fuel (out ++ content) (.ofBytes rest) := by
  simp only [storedBlock, Bool.false_eq_true, if_false, List.cons_append, blocks, bits_head]
  simp only [UInt8.toNat_zero, Nat.zero_mod, Nat.zero_div, block, if_true, BitReader.align]
  rw [stored_append out content rest h]
  simp

theorem blocks_storedBlocks (out : Array UInt8) (content rest : Bytes) (fuel : Nat)
    (h : content.length < fuel) :
    blocks fuel out (.ofBytes (storedBlocks content ++ rest)) =
      ⟨out ++ content, .ok (.ofBytes rest)⟩ := by
  induction fuel generalizing out content with
  | zero => omega
  | succ fuel ih =>
    rw [storedBlocks_eq]
    split
    next hl => exact blocks_storedBlock_last out content rest fuel hl
    next hl =>
      have hp : 0 < longestBlock := by decide
      have hd : (content.drop longestBlock).length < fuel := by
        rw [List.length_drop]
        omega
      have ho : out ++ content.take longestBlock ++ content.drop longestBlock = out ++ content := by
        rw [← Array.toList_inj]
        simp
      rw [List.append_assoc, blocks_storedBlock_more _ _ _ _ (List.length_take_le _ _),
        ih _ _ hd, ho]

end Inflate

theorem length_le_storedBlocks (content : Bytes) :
    content.length ≤ (storedBlocks content).length := by
  fun_induction storedBlocks content with
  | case1 content h => simp [storedBlock]; omega
  | case2 content h ih =>
    simp only [storedBlock, List.length_append, List.length_cons, List.length_take,
      List.length_drop] at ih ⊢
    omega

theorem inflate_storedBlocks (content rest : Bytes) :
    inflate (storedBlocks content ++ rest) = ⟨content.toArray, .ok (.ofBytes rest)⟩ := by
  have hl := length_le_storedBlocks content
  unfold inflate
  rw [Inflate.blocks_storedBlocks]
  · simp
  · rw [List.length_append]
    omega

def writtenTrailer (content : Bytes) : Bytes :=
  littleEndian 4 (checksum content).toNat ++ littleEndian 4 content.length

theorem trailer_writtenTrailer (content rest : Bytes) :
    trailer content (writtenTrailer content ++ rest) = .ok rest := by
  have hs : ofLittleEndian (littleEndian 4 (checksum content).toNat) =
      (checksum content).toNat := by
    rw [ofLittleEndian_littleEndian]
    exact Nat.mod_eq_of_lt (checksum content).toNat_lt
  have hn : ofLittleEndian (littleEndian 4 content.length) = content.length % 0x100000000 :=
    ofLittleEndian_littleEndian 4 content.length
  have ht : (writtenTrailer content ++ rest).take 4 = littleEndian 4 (checksum content).toNat := by
    rw [writtenTrailer, List.append_assoc]
    exact List.take_left' (length_littleEndian _ _)
  have hd : (writtenTrailer content ++ rest).drop 4 = littleEndian 4 content.length ++ rest := by
    rw [writtenTrailer, List.append_assoc]
    exact List.drop_left' (length_littleEndian _ _)
  have hl : (writtenTrailer content).length = 8 := by simp [writtenTrailer]
  have hr : (writtenTrailer content ++ rest).drop 8 = rest := List.drop_left' hl
  unfold trailer
  rw [ht, hd, hr, if_neg (by rw [List.length_append, hl]; omega)]
  simp [hs, hn]

theorem header?_plainHeader (rest : Bytes) : header? (plainHeader ++ rest) = .ok (some rest) := by
  simp [header?, plainHeader, magic, deflateMethod, skipOptional, hasFlag]
  rfl

end SubtreePartition.Gzip
