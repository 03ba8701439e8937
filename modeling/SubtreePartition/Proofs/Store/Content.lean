import SubtreePartition.Proofs.FileTree.Access
import SubtreePartition.Proofs.Gzip.Single
import SubtreePartition.Store

namespace SubtreePartition.Store

variable {c : Compression} {bytes content : Bytes} {t t' : FileTree} {p : FilePath}
  {loss : Gzip.Loss}

def content? : Compression → Bytes → Option Bytes
  | .none, bytes => some bytes
  | .gzip, bytes =>
      match Gzip.read bytes with
      | ⟨content, none⟩ => some content
      | ⟨_, some _⟩ => none

def contentAt (c : Compression) (t : FileTree) (p : FilePath) : Option Bytes :=
  match t.read p with
  | .ok bytes => content? c bytes
  | .error _ => none

theorem contentAt_of_read (h : t.read p = .ok bytes) : contentAt c t p = content? c bytes := by
  simp [contentAt, h]

theorem content?_encode (c : Compression) (content : Bytes) :
    content? c (encode c content) = some content := by
  cases c with
  | none => rfl
  | gzip => simp [content?, encode, Gzip.read_of_isMember (Gzip.isMember_write content)]

theorem stream_eq (h : (stream loss c bytes).fault = none) :
    ∃ content, content? c bytes = some content ∧ (stream loss c bytes).lines = lines content := by
  cases c with
  | none => exact ⟨bytes, rfl, rfl⟩
  | gzip =>
    rcases hr : Gzip.read bytes with ⟨content, fault⟩
    cases fault with
    | none => exact ⟨content, by simp [content?, hr], by simp [stream, hr]⟩
    | some fault => simp [stream, hr] at h

theorem stream_of_content? (loss : Gzip.Loss) (h : content? c bytes = some content) :
    stream loss c bytes = ⟨lines content, none⟩ := by
  cases c with
  | none =>
    obtain rfl : bytes = content := Option.some.inj h
    rfl
  | gzip =>
    rcases hr : Gzip.read bytes with ⟨content', _ | fault⟩
    · simp only [content?, hr, Option.some.injEq] at h
      simp only [stream, hr, h]
    · simp [content?, hr] at h

theorem statedSize_append {front : Bytes} (h : Gzip.IsMember bytes content)
    (hm : (front ++ bytes).take 2 = Gzip.magic) :
    statedSize (front ++ bytes) = .ok (content.length % 2 ^ 32) := by
  obtain ⟨-, data, tail, rfl, hdata, htail, hstates⟩ := Gzip.exists_trailer_of_isMember h
  have hlen : ¬(front ++ (data ++ tail)).length < shortestMember := by
    rw [List.length_append, List.length_append, htail, shortestMember]
    omega
  have hdrop : (front ++ (data ++ tail)).drop ((front ++ (data ++ tail)).length - 4) =
      tail.drop 4 := by
    rw [← List.append_assoc, List.length_append, htail, List.drop_append,
      List.drop_of_length_le (by omega), List.nil_append]
    congr 1
    omega
  rw [statedSize, if_neg hlen, if_neg (not_not.mpr hm), hdrop, hstates]

theorem statedSize_of_isMember (h : Gzip.IsMember bytes content) :
    statedSize bytes = .ok (content.length % 2 ^ 32) := by
  have hm := (Gzip.exists_trailer_of_isMember h).1
  exact @statedSize_append bytes content [] h hm

theorem exists_size_of_encode (h : t.read p = .ok (encode c content)) :
    ∃ n, size c t p = .ok n := by
  cases c with
  | none =>
    have hg := FileTree.read_eq_ok_iff.mp h
    refine ⟨content.length, ?_⟩
    rw [size, FileTree.size, hg]
    rfl
  | gzip =>
    refine ⟨content.length % 2 ^ 32, ?_⟩
    rw [size, h]
    exact statedSize_of_isMember (Gzip.isMember_write content)

theorem exists_get_of_size {n : Nat} (hs : size c t p = .ok n) : ∃ node, t.get p = .ok node := by
  cases c with
  | none =>
    cases hg : t.get p with
    | error fault =>
      simp [size, FileTree.size, hg, bind, Except.bind, Except.mapError] at hs
    | ok node => exact ⟨node, rfl⟩
  | gzip =>
    cases hb : t.read p with
    | error fault => simp [size, hb, bind, Except.bind, Except.mapError] at hs
    | ok content => exact ⟨_, FileTree.read_eq_ok_iff.mp hb⟩

theorem size_congr (c : Compression) (h : t.get p = t'.get p) : size c t p = size c t' p := by
  cases c with
  | none => simp only [size, FileTree.size, h]
  | gzip => simp only [size, FileTree.read, h]

theorem size_of_extends {n : Nat} (hs : size c t p = .ok n) (he : t.Extends t') :
    size c t' p = .ok n := by
  obtain ⟨node, hg⟩ := exists_get_of_size hs
  rw [← size_congr c (hg.trans (he.get hg).symm), hs]

theorem read_of_size {n : Nat} (hs : size c t p = .ok n) (he : t.Extends t')
    (hr : t'.read p = .ok bytes) : t.read p = .ok bytes := by
  obtain ⟨node, hg⟩ := exists_get_of_size hs
  have hg' := he.get hg
  rw [FileTree.read_eq_ok_iff.mp hr] at hg'
  rw [FileTree.read_eq_ok_iff, hg, Except.ok.inj hg']

end SubtreePartition.Store
