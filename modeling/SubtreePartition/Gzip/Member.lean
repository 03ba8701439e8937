import SubtreePartition.Gzip.Checksum
import SubtreePartition.Gzip.Inflate
import SubtreePartition.Text.Quoted

namespace SubtreePartition.Gzip

inductive Fault where
  | badMagic (found : Bytes)
  | unknownMethod
  | checksumDiffers (stored computed : Nat)
  | lengthDiffers
  | ended
  | corrupt
  deriving DecidableEq, Repr

namespace Fault

def message : Fault → Text
  | .badMagic found => Text.join ["Not a gzipped file (", Text.quotedBytes found, ")"]
  | .unknownMethod => "Unknown compression method"
  | .checksumDiffers stored computed =>
      Text.join ["CRC check failed 0x", Text.hex 1 stored, " != 0x", Text.hex 1 computed]
  | .lengthDiffers => "Incorrect length of data produced"
  | .ended => "Compressed file ended before the end-of-stream marker was reached"
  | .corrupt => "invalid compressed data"

def ofBreak : Break → Fault
  | .ended => .ended
  | .corrupt => .corrupt

end Fault

def magic : Bytes := [0x1F, 0x8B]

def deflateMethod : UInt8 := 8

def skipText (bytes : Bytes) : Bytes :=
  (bytes.dropWhile (· ≠ 0)).drop 1

def skip (n : Nat) (bytes : Bytes) : Except Fault Bytes :=
  if bytes.length < n then .error .ended else .ok (bytes.drop n)

def hasFlag (flags : UInt8) (bit : Nat) : Bool :=
  flags.toNat.testBit bit

def skipExtra (bytes : Bytes) : Except Fault Bytes :=
  match bytes with
  | a :: b :: rest => skip (a.toNat + 256 * b.toNat) rest
  | _ => .error .ended

def skipOptional (flags : UInt8) (bytes : Bytes) : Except Fault Bytes := do
  let bytes ← if hasFlag flags 2 then skipExtra bytes else .ok bytes
  let bytes := if hasFlag flags 3 then skipText bytes else bytes
  let bytes := if hasFlag flags 4 then skipText bytes else bytes
  if hasFlag flags 1 then skip 2 bytes else .ok bytes

def header? (bytes : Bytes) : Except Fault (Option Bytes) :=
  if bytes = [] then .ok none
  else if bytes.take 2 ≠ magic then .error (.badMagic (bytes.take 2))
  else
    match bytes.drop 2 with
    | method :: flags :: _ :: _ :: _ :: _ :: _ :: _ :: rest =>
        if method ≠ deflateMethod then .error .unknownMethod
        else (skipOptional flags rest).map some
    | _ => .error .ended

def trailer (content bytes : Bytes) : Except Fault Bytes :=
  if bytes.length < 8 then .error .ended
  else
    let stored := ofLittleEndian (bytes.take 4)
    let computed := (checksum content).toNat
    if stored ≠ computed then .error (.checksumDiffers stored computed)
    else if ofLittleEndian ((bytes.drop 4).take 4) ≠ content.length % 0x100000000 then
      .error .lengthDiffers
    else .ok (bytes.drop 8)

structure Reading where
  content : Bytes
  fault : Option Fault
  deriving DecidableEq, Repr

namespace Reading

def after (content : Bytes) (r : Reading) : Reading :=
  { r with content := content ++ r.content }

end Reading

def member (bytes : Bytes) : Bytes × Except Fault Bytes :=
  match inflate bytes with
  | ⟨out, .error b⟩ => (out.toList, .error (.ofBreak b))
  | ⟨out, .ok r⟩ =>
      (out.toList, (trailer out.toList r.align).map fun rest => rest.dropWhile (· = 0))

def membersFrom : Nat → Bytes → Reading
  | 0, _ => ⟨[], none⟩
  | fuel + 1, bytes =>
      match header? bytes with
      | .error fault => ⟨[], some fault⟩
      | .ok none => ⟨[], none⟩
      | .ok (some bytes) =>
          match member bytes with
          | (content, .error fault) => ⟨content, some fault⟩
          | (content, .ok rest) => (membersFrom fuel rest).after content

def read (bytes : Bytes) : Reading :=
  membersFrom (bytes.length + 1) bytes

def pieceSize : Nat := 8192

/-- What has been decompressed and yet does not come through where the data turn out to be corrupt:
the piece that was under way. Where pieces begin is up to the decompressor. -/
structure Loss where
  lost : Bytes → Nat
  lost_le : ∀ bytes, lost bytes ≤ pieceSize

namespace Loss

def nothing : Loss := ⟨fun _ => 0, fun _ => Nat.zero_le _⟩

def delivered (loss : Loss) (bytes content : Bytes) : Fault → Bytes
  | .corrupt => content.take (content.length - loss.lost bytes)
  | _ => content

end Loss

def longestBlock : Nat := 0xFFFF

def storedBlock (last : Bool) (content : Bytes) : Bytes :=
  (if last then 1 else 0) ::
    (littleEndian 2 content.length ++ (littleEndian 2 (0xFFFF - content.length) ++ content))

def storedBlocks (content : Bytes) : Bytes :=
  if content.length ≤ longestBlock then storedBlock true content
  else storedBlock false (content.take longestBlock) ++ storedBlocks (content.drop longestBlock)
termination_by content.length
decreasing_by
  simp only [List.length_drop, longestBlock] at *
  omega

def plainHeader : Bytes :=
  magic ++ [deflateMethod, 0, 0, 0, 0, 0, 0, 0xFF]

def write (content : Bytes) : Bytes :=
  plainHeader ++ (storedBlocks content ++
    (littleEndian 4 (checksum content).toNat ++ littleEndian 4 content.length))

end SubtreePartition.Gzip
