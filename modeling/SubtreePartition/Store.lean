import SubtreePartition.FileTree.Access
import SubtreePartition.Gzip.Member
import SubtreePartition.Settings

namespace SubtreePartition.Store

def addToLines (b : UInt8) (lines : List Bytes) : List Bytes :=
  if b = 10 then [b] :: lines
  else match lines with
    | [] => [[b]]
    | line :: rest => (b :: line) :: rest

def lines (content : Bytes) : List Bytes :=
  content.foldr addToLines []

theorem lines_nil : lines [] = [] := rfl

theorem lines_cons (b : UInt8) (content : Bytes) :
    lines (b :: content) = addToLines b (lines content) := rfl

theorem flatten_addToLines (b : UInt8) (ls : List Bytes) :
    (addToLines b ls).flatten = b :: ls.flatten := by
  unfold addToLines
  split
  · simp
  · split <;> simp

theorem flatten_lines (content : Bytes) : (lines content).flatten = content := by
  induction content with
  | nil => rfl
  | cons b content ih => rw [lines_cons, flatten_addToLines, ih]

structure Stream where
  lines : List Bytes
  fault : Option Gzip.Fault
  deriving DecidableEq, Repr

/-- Before a fault only whole lines come through. -/
def wholeLines (content : Bytes) : List Bytes :=
  (lines content).filter fun l => l.getLast? = some 10

def stream (loss : Gzip.Loss) : Compression → Bytes → Stream
  | .none, bytes => ⟨lines bytes, none⟩
  | .gzip, bytes =>
      match Gzip.read bytes with
      | ⟨content, none⟩ => ⟨lines content, none⟩
      | ⟨content, some fault⟩ => ⟨wholeLines (loss.delivered bytes content fault), some fault⟩

def encode : Compression → Bytes → Bytes
  | .none, content => content
  | .gzip, content => Gzip.write content

inductive SizeFault where
  | access (fault : FileFault)
  | tooShort (length : Nat)
  | noMagic
  deriving DecidableEq, Repr

namespace SizeFault

def reason : SizeFault → Text
  | .access fault => fault.cause.words
  | .tooShort n => Text.join [Text.ofNat n, " bytes is shorter than a gzip member"]
  | .noMagic => "missing gzip magic bytes"

def message (p : FilePath) : SizeFault → Text
  | .access fault => fault.message p
  | fault =>
      Text.join ["Cannot estimate uncompressed size of ", p.text, ": ", fault.reason]

end SizeFault

def shortestMember : Nat := 18

/-- The uncompressed size that a compressed file states about itself in its last four octets. It is
a remainder modulo `2 ^ 32` and speaks of the last member only. -/
def statedSize (bytes : Bytes) : Except SizeFault Nat :=
  if bytes.length < shortestMember then .error (.tooShort bytes.length)
  else if bytes.take 2 ≠ Gzip.magic then .error .noMagic
  else .ok (Gzip.ofLittleEndian (bytes.drop (bytes.length - 4)))

def size (c : Compression) (t : FileTree) (p : FilePath) : Except SizeFault Nat :=
  match c with
  | .none => (t.size p).mapError .access
  | .gzip => do statedSize (← (t.read p).mapError .access)

end SubtreePartition.Store
