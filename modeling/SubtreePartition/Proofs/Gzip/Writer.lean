import SubtreePartition.Proofs.Gzip.RoundTrip

namespace SubtreePartition.Gzip

/-- A member that is open for writing: what has gone into it so far, with the running checksum and
length that its trailer will state. -/
structure Writer where
  content : Bytes
  register : UInt32
  length : Nat

namespace Writer

def start : Writer :=
  ⟨[], 0xFFFFFFFF, 0⟩

def add (w : Writer) (chunk : Bytes) : Writer :=
  ⟨w.content ++ chunk, chunk.foldl checksumStep w.register, w.length + chunk.length⟩

def close (w : Writer) : Bytes :=
  plainHeader ++ (storedBlocks w.content ++
    (littleEndian 4 (w.register ^^^ 0xFFFFFFFF).toNat ++ littleEndian 4 w.length))

def after (chunks : List Bytes) : Writer :=
  chunks.foldl add start

structure Counts (w : Writer) (written : Bytes) : Prop where
  content : w.content = written
  register : w.register ^^^ 0xFFFFFFFF = checksum written
  length : w.length = written.length

variable {w : Writer} {content chunk : Bytes}

theorem xor_xor_self (a b : UInt32) : a ^^^ b ^^^ b = a := by
  rw [UInt32.xor_assoc, UInt32.xor_self, UInt32.xor_zero]

theorem counts_start : start.Counts [] :=
  ⟨rfl, rfl, rfl⟩

theorem Counts.add (h : w.Counts content) (chunk : Bytes) :
    (w.add chunk).Counts (content ++ chunk) := by
  have hr : w.register = content.foldl checksumStep 0xFFFFFFFF := by
    have hx := congrArg (· ^^^ (0xFFFFFFFF : UInt32)) h.register
    simpa only [checksum, xor_xor_self] using hx
  refine ⟨?_, ?_, ?_⟩
  · rw [Writer.add, h.content]
  · rw [Writer.add, checksum, List.foldl_append, hr]
  · rw [Writer.add, List.length_append, h.length]

theorem Counts.addAll (h : w.Counts content) (chunks : List Bytes) :
    (chunks.foldl Writer.add w).Counts (content ++ chunks.flatten) := by
  induction chunks generalizing w content with
  | nil => simpa using h
  | cons chunk rest ih =>
    have hrest := ih (h.add chunk)
    rw [List.append_assoc] at hrest
    exact hrest

theorem Counts.close (h : w.Counts content) : w.close = write content := by
  rw [Writer.close, write, h.content, h.register, h.length]

theorem close_after (chunks : List Bytes) : (after chunks).close = write chunks.flatten :=
  (counts_start.addAll chunks).close

end Writer

end SubtreePartition.Gzip
