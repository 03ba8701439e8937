import SubtreePartition.Text.Basic

namespace SubtreePartition.Gzip

/-- Octets read bit by bit, low bit first. `held` are the `count` bits left of the last octet. -/
structure BitReader where
  held : Nat
  count : Nat
  rest : Bytes
  deriving DecidableEq, Repr

namespace BitReader

def ofBytes (bytes : Bytes) : BitReader := ⟨0, 0, bytes⟩

def size (r : BitReader) : Nat :=
  r.count + 8 * r.rest.length

def takeFrom (n held count : Nat) : Bytes → Option (Nat × BitReader)
  | [] =>
      if n ≤ count then some (held % Nat.pow 2 n, ⟨held / Nat.pow 2 n, count - n, []⟩) else none
  | b :: rest =>
      if n ≤ count then some (held % Nat.pow 2 n, ⟨held / Nat.pow 2 n, count - n, b :: rest⟩)
      else takeFrom n (held + b.toNat * Nat.pow 2 count) (count + 8) rest

def take (n : Nat) (r : BitReader) : Option (Nat × BitReader) :=
  takeFrom n r.held r.count r.rest

def align (r : BitReader) : Bytes :=
  r.rest

end BitReader

end SubtreePartition.Gzip
