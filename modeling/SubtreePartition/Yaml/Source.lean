import SubtreePartition.Text.Feed
import SubtreePartition.Yaml.Fault

namespace SubtreePartition.Yaml

def isAllowed (c : CodePoint) : Bool :=
  c == 9 || c == 10 || c == 13 || (0x20 ≤ c && c ≤ 0x7E) || c == 0x85 ||
    (0xA0 ≤ c && c ≤ 0xD7FF) || (0xE000 ≤ c && c ≤ 0xFFFD) || 0x10000 ≤ c

/-- The text of a document up to where it can be read, and what keeps the rest from being read. -/
structure Source where
  text : Text
  fault : Option Fault := none
  deriving DecidableEq, Repr

namespace Source

def blockSize : Nat := 4096

def ofBlocks (blocks : List Text) (fault : Option Fault) : Source :=
  let allowed := blocks.takeWhile fun t => t.all isAllowed
  ⟨allowed.flatten, if allowed.length < blocks.length then some .malformed else fault⟩

def opening (f : Feed) : Except Utf8.Defect (Text × Feed) := do
  let (first, f) ← f.take blockSize
  let (second, f) ← f.take blockSize
  return (first ++ second, f)

def ofOctets (octets : Bytes) : Source :=
  match opening { octets } with
  | .error defect => ⟨[], some (.notUtf8 defect)⟩
  | .ok (t, f) =>
      let (blocks, defect) := f.blocks blockSize
      ofBlocks (t :: blocks) (defect.map .notUtf8)

end Source

end SubtreePartition.Yaml
