import SubtreePartition.Gzip.PrefixCode

namespace SubtreePartition.Gzip

structure Step where
  output : Array UInt8
  next : Except Break BitReader

namespace Inflate

def bits (n : Nat) (r : BitReader) : Except Break (Nat × BitReader) :=
  match r.take n with
  | some taken => .ok taken
  | none => .error .ended

def lengths : List (Nat × Nat) :=
  [(3, 0), (4, 0), (5, 0), (6, 0), (7, 0), (8, 0), (9, 0), (10, 0), (11, 1), (13, 1), (15, 1),
    (17, 1), (19, 2), (23, 2), (27, 2), (31, 2), (35, 3), (43, 3), (51, 3), (59, 3), (67, 4),
    (83, 4), (99, 4), (115, 4), (131, 5), (163, 5), (195, 5), (227, 5), (258, 0)]

def distances : List (Nat × Nat) :=
  [(1, 0), (2, 0), (3, 0), (4, 0), (5, 1), (7, 1), (9, 2), (13, 2), (17, 3), (25, 3), (33, 4),
    (49, 4), (65, 5), (97, 5), (129, 6), (193, 6), (257, 7), (385, 7), (513, 8), (769, 8),
    (1025, 9), (1537, 9), (2049, 10), (3073, 10), (4097, 11), (6145, 11), (8193, 12), (12289, 12),
    (16385, 13), (24577, 13)]

def number (table : List (Nat × Nat)) (symbol : Nat) (r : BitReader) :
    Except Break (Nat × BitReader) :=
  match table[symbol]? with
  | none => .error .corrupt
  | some (base, extra) => do
      let (more, r) ← bits extra r
      .ok (base + more, r)

def copy (distance : Nat) : Nat → Array UInt8 → Array UInt8
  | 0, out => out
  | n + 1, out => copy distance n (out.push (out.getD (out.size - distance) 0))

def repetition (distanceCode : PrefixCode) (symbol : Nat) (r : BitReader) :
    Except Break ((Nat × Nat) × BitReader) := do
  let (length, r) ← number lengths (symbol - 257) r
  let (symbol, r) ← distanceCode.decode r
  let (distance, r) ← number distances symbol r
  .ok ((length, distance), r)

inductive Action where
  | octet (b : UInt8)
  | stop
  | again (length distance : Nat)
  deriving DecidableEq, Repr

def action (literalCode distanceCode : PrefixCode) (r : BitReader) :
    Except Break (Action × BitReader) := do
  let (symbol, r) ← literalCode.decode r
  if symbol < 256 then .ok (.octet (UInt8.ofNat symbol), r)
  else if symbol = 256 then .ok (.stop, r)
  else
    let ((length, distance), r) ← repetition distanceCode symbol r
    .ok (.again length distance, r)

/-- The symbols of a block up to its end mark. Each takes at least one bit. -/
def symbols (literalCode distanceCode : PrefixCode) : Nat → Array UInt8 → BitReader → Step
  | 0, out, _ => ⟨out, .error .ended⟩
  | fuel + 1, out, r =>
      match action literalCode distanceCode r with
      | .error b => ⟨out, .error b⟩
      | .ok (.octet b, r) => symbols literalCode distanceCode fuel (out.push b) r
      | .ok (.stop, r) => ⟨out, .ok r⟩
      | .ok (.again length distance, r) =>
          if out.size < distance then ⟨out, .error .corrupt⟩
          else symbols literalCode distanceCode fuel (copy distance length out) r

def fixedLengths : List Nat :=
  List.replicate 144 8 ++ (List.replicate 112 9 ++ (List.replicate 24 7 ++ List.replicate 8 8))

def fixedCodes : PrefixCode × PrefixCode :=
  (((PrefixCode.ofLengths? false fixedLengths).getD .unused),
    ((PrefixCode.ofLengths? false (List.replicate 32 5)).getD .unused))

def lengthOrder : List Nat :=
  [16, 17, 18, 0, 8, 7, 9, 6, 10, 5, 11, 4, 12, 3, 13, 2, 14, 1, 15]

def smallNumbers : Nat → BitReader → Except Break (List Nat × BitReader)
  | 0, r => .ok ([], r)
  | n + 1, r => do
      let (x, r) ← bits 3 r
      let (xs, r) ← smallNumbers n r
      .ok (x :: xs, r)

def run (symbol : Nat) (done : List Nat) (r : BitReader) :
    Except Break ((Nat × Nat) × BitReader) :=
  if symbol = 16 then do
    let (n, r) ← bits 2 r
    match done with
    | [] => .error .corrupt
    | last :: _ => .ok ((last, 3 + n), r)
  else if symbol = 17 then do
    let (n, r) ← bits 3 r
    .ok ((0, 3 + n), r)
  else do
    let (n, r) ← bits 7 r
    .ok ((0, 11 + n), r)

def codeLengths (code : PrefixCode) (total : Nat) :
    Nat → List Nat → BitReader → Except Break (List Nat × BitReader)
  | 0, _, _ => .error .ended
  | fuel + 1, done, r =>
      if total ≤ done.length then .ok (done.reverse, r)
      else do
        let (symbol, r) ← code.decode r
        if symbol < 16 then codeLengths code total fuel (symbol :: done) r
        else
          let ((length, count), r) ← run symbol done r
          if total < done.length + count then .error .corrupt
          else codeLengths code total fuel (List.replicate count length ++ done) r

def orCorrupt (code? : Option PrefixCode) : Except Break PrefixCode :=
  match code? with
  | some code => .ok code
  | none => .error .corrupt

def lengthCode (given : List Nat) : Except Break PrefixCode :=
  let lengths := (List.range 19).map fun s => ((lengthOrder.zip given).lookup s).getD 0
  if lengths.all (· = 0) then .ok (.branch (.symbol 0) (.symbol 0))
  else orCorrupt (PrefixCode.ofLengths? false lengths)

def ownCodes (r : BitReader) : Except Break ((PrefixCode × PrefixCode) × BitReader) := do
  let (n, r) ← bits 5 r
  let (m, r) ← bits 5 r
  let (k, r) ← bits 4 r
  if 286 < n + 257 ∨ 30 < m + 1 then .error .corrupt
  else
    let (given, r) ← smallNumbers (k + 4) r
    let code ← lengthCode given
    let total := n + 257 + (m + 1)
    let (lengths, r) ← codeLengths code total (total + 1) [] r
    if lengths.getD 256 0 = 0 then .error .corrupt
    else
      let literalCode ← orCorrupt (PrefixCode.ofLengths? true (lengths.take (n + 257)))
      let distanceCode ← orCorrupt (PrefixCode.ofLengths? true (lengths.drop (n + 257)))
      .ok ((literalCode, distanceCode), r)

def stored (out : Array UInt8) (bytes : Bytes) : Step :=
  match bytes with
  | a :: b :: c :: d :: rest =>
      let size := a.toNat + 256 * b.toNat
      if size + (c.toNat + 256 * d.toNat) ≠ 0xFFFF then ⟨out, .error .corrupt⟩
      else if rest.length < size then ⟨out ++ rest, .error .ended⟩
      else ⟨out ++ rest.take size, .ok (.ofBytes (rest.drop size))⟩
  | _ => ⟨out, .error .ended⟩

def block (kind : Nat) (out : Array UInt8) (r : BitReader) : Step :=
  if kind = 0 then stored out r.align
  else if kind = 1 then symbols fixedCodes.1 fixedCodes.2 (r.size + 1) out r
  else if kind = 2 then
    match ownCodes r with
    | .error b => ⟨out, .error b⟩
    | .ok ((literalCode, distanceCode), r) =>
        symbols literalCode distanceCode (r.size + 1) out r
  else ⟨out, .error .corrupt⟩

/-- Blocks up to the one that is marked as the last. Each takes at least three bits. -/
def blocks : Nat → Array UInt8 → BitReader → Step
  | 0, out, _ => ⟨out, .error .ended⟩
  | fuel + 1, out, r =>
      match bits 3 r with
      | .error b => ⟨out, .error b⟩
      | .ok (head, r) =>
          match block (head / 2) out r with
          | ⟨out, .error b⟩ => ⟨out, .error b⟩
          | ⟨out, .ok r⟩ => if head % 2 = 1 then ⟨out, .ok r⟩ else blocks fuel out r

end Inflate

/-- Decompresses one stream of blocks. What was written before a break is kept. -/
def inflate (bytes : Bytes) : Step :=
  Inflate.blocks (8 * bytes.length + 1) #[] (.ofBytes bytes)

end SubtreePartition.Gzip
