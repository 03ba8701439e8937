import SubtreePartition.Proofs.Store.Content

namespace SubtreePartition.Store

variable {c : Compression} {bytes content : Bytes} {t : FileTree} {p : FilePath}

structure TellsSize (c : Compression) (t : FileTree) (p : FilePath) (content : Bytes) : Prop where
  reads : contentAt c t p = some content
  states : size c t p = .ok content.length

inductive IsSingle : Compression → Bytes → Bytes → Prop where
  | plain (content : Bytes) : IsSingle .none content content
  | member {bytes content : Bytes} (single : Gzip.IsMember bytes content)
      (short : content.length < 2 ^ 32) : IsSingle .gzip bytes content

theorem isSingle_encode (c : Compression) (h : content.length < 2 ^ 32) :
    IsSingle c (encode c content) content := by
  cases c with
  | none => exact .plain content
  | gzip => exact .member (Gzip.isMember_write content) h

theorem tellsSize_of_isSingle (hr : t.read p = .ok bytes) (h : IsSingle c bytes content) :
    TellsSize c t p content := by
  cases h with
  | plain =>
    refine ⟨contentAt_of_read hr, ?_⟩
    rw [size, FileTree.size, FileTree.read_eq_ok_iff.mp hr]
    rfl
  | member single short =>
    refine ⟨?_, ?_⟩
    · rw [contentAt_of_read hr, content?, Gzip.read_of_isMember single]
    · rw [size, hr]
      exact (statedSize_of_isMember single).trans (by rw [Nat.mod_eq_of_lt short])

end SubtreePartition.Store
