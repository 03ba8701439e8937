import SubtreePartition.Text.Basic

namespace SubtreePartition.Gzip

def divideBit (r : UInt32) : UInt32 :=
  if r &&& 1 = 1 then (r >>> 1) ^^^ 0xEDB88320 else r >>> 1

def remainderOf (n : Nat) : UInt32 :=
  (List.range 8).foldl (fun r _ => divideBit r) (UInt32.ofNat n)

def remainders : Array UInt32 :=
  ((List.range 256).map remainderOf).toArray

def checksumStep (r : UInt32) (b : UInt8) : UInt32 :=
  (r >>> 8) ^^^ remainders.getD ((r ^^^ b.toUInt32) &&& 0xFF).toNat 0

def checksum (bytes : Bytes) : UInt32 :=
  bytes.foldl checksumStep 0xFFFFFFFF ^^^ 0xFFFFFFFF

def littleEndian (width n : Nat) : Bytes :=
  (List.range width).map fun i => UInt8.ofNat (n / Nat.pow 256 i)

def ofLittleEndian (bytes : Bytes) : Nat :=
  bytes.foldr (fun b n => b.toNat + 256 * n) 0

end SubtreePartition.Gzip
