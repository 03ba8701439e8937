import SubtreePartition.Gzip.BitReader

namespace SubtreePartition.Gzip

inductive PrefixCode where
  | unused
  | symbol (s : Nat)
  | branch (zero one : PrefixCode)
  deriving DecidableEq, Repr

inductive Break where
  | ended
  | corrupt
  deriving DecidableEq, Repr

namespace PrefixCode

def longest : Nat := 15

def ranked (lengths : List Nat) : List (Nat × Nat) :=
  (lengths.zipIdx.filter fun m => m.1 ≠ 0).mergeSort fun m n =>
    m.1 < n.1 || (m.1 = n.1 && m.2 ≤ n.2)

def grow (depth : Nat) : Nat → List (Nat × Nat) → PrefixCode × List (Nat × Nat)
  | _, [] => (.unused, [])
  | 0, items => (.unused, items)
  | fuel + 1, (length, s) :: items =>
      if length = depth then (.symbol s, items)
      else
        let (zero, items) := grow (depth + 1) fuel ((length, s) :: items)
        let (one, items) := grow (depth + 1) fuel items
        (.branch zero one, items)

def weight (lengths : List Nat) : Nat :=
  (lengths.filter (· ≠ 0)).foldl (fun words l => words + Nat.pow 2 (longest - l)) 0

/-- The code with the given lengths of code words, 0 for symbols without one. The words must fill
the tree, except that a lone word of length 1, or no word at all, may do where `lone` allows it. -/
def ofLengths? (lone : Bool) (lengths : List Nat) : Option PrefixCode :=
  if lengths.all (· = 0) then some (.branch .unused .unused)
  else if weight lengths = Nat.pow 2 longest ∨
      (lone ∧ weight lengths < Nat.pow 2 longest ∧ lengths.all (· ≤ 1))
  then some (grow 0 (longest + 1) (ranked lengths)).1
  else none

def decode : PrefixCode → BitReader → Except Break (Nat × BitReader)
  | .unused, _ => .error .corrupt
  | .symbol s, r => .ok (s, r)
  | .branch zero one, r =>
      match r.take 1 with
      | none => .error .ended
      | some (0, r) => zero.decode r
      | some (_, r) => one.decode r

end PrefixCode

end SubtreePartition.Gzip
