import SubtreePartition.Text.Decimal

namespace SubtreePartition.Utf8

def isTail (b : UInt8) : Bool :=
  0x80 ≤ b && b ≤ 0xBF

def isSecond (first b : UInt8) : Bool :=
  if first = 0xE0 then 0xA0 ≤ b && b ≤ 0xBF
  else if first = 0xED then 0x80 ≤ b && b ≤ 0x9F
  else if first = 0xF0 then 0x90 ≤ b && b ≤ 0xBF
  else if first = 0xF4 then 0x80 ≤ b && b ≤ 0x8F
  else isTail b

def tailLength (b : UInt8) : Option Nat :=
  if b < 0x80 then some 0
  else if 0xC2 ≤ b && b ≤ 0xDF then some 1
  else if 0xE0 ≤ b && b ≤ 0xEF then some 2
  else if 0xF0 ≤ b && b ≤ 0xF4 then some 3
  else none

def low6 (b : UInt8) : Nat :=
  b.toNat % 0x40

def character? : Bytes → Option (CodePoint × Nat)
  | [] => none
  | a :: rest =>
      match tailLength a, rest with
      | some 0, _ => some (a.toNat, 0)
      | some 1, b :: _ =>
          if isTail b then some (a.toNat % 0x20 * 0x40 + low6 b, 1) else none
      | some 2, b :: c :: _ =>
          if isSecond a b && isTail c then
            some (a.toNat % 0x10 * 0x1000 + low6 b * 0x40 + low6 c, 2)
          else none
      | some 3, b :: c :: d :: _ =>
          if isSecond a b && isTail c && isTail d then
            some (a.toNat % 0x08 * 0x40000 + low6 b * 0x1000 + low6 c * 0x40 + low6 d, 3)
          else none
      | _, _ => none

/-- The lone surrogate that stands for an octet outside every character. -/
def escape (b : UInt8) : CodePoint :=
  0xDC00 + b.toNat

def decodeFrom (done : Text) : Nat → Bytes → Text
  | _, [] => done.reverse
  | skip + 1, _ :: rest => decodeFrom done skip rest
  | 0, a :: rest =>
      match character? (a :: rest) with
      | some (c, n) => decodeFrom (c :: done) n rest
      | none => decodeFrom (escape a :: done) 0 rest

def decode (bytes : Bytes) : Text :=
  decodeFrom [] 0 bytes

theorem decodeFrom_append (done more : Text) (skip : Nat) (bytes : Bytes) :
    decodeFrom (more ++ done) skip bytes = done.reverse ++ decodeFrom more skip bytes := by
  induction bytes generalizing more skip with
  | nil => simp [decodeFrom]
  | cons a rest ih =>
      cases skip with
      | succ skip => simpa [decodeFrom] using ih more skip
      | zero =>
          simp only [decodeFrom]
          split
          · exact ih (_ :: more) _
          · exact ih (_ :: more) _

def encodeCodePoint (c : CodePoint) : Bytes :=
  if 0xDC80 ≤ c && c ≤ 0xDCFF then [UInt8.ofNat (c - 0xDC00)]
  else if c < 0x80 then [UInt8.ofNat c]
  else if c < 0x800 then [UInt8.ofNat (0xC0 + c / 0x40), UInt8.ofNat (0x80 + c % 0x40)]
  else if c < 0x10000 then
    [UInt8.ofNat (0xE0 + c / 0x1000), UInt8.ofNat (0x80 + c / 0x40 % 0x40),
      UInt8.ofNat (0x80 + c % 0x40)]
  else
    [UInt8.ofNat (0xF0 + c / 0x40000), UInt8.ofNat (0x80 + c / 0x1000 % 0x40),
      UInt8.ofNat (0x80 + c / 0x40 % 0x40), UInt8.ofNat (0x80 + c % 0x40)]

def encode (t : Text) : Bytes :=
  t.flatMap encodeCodePoint

def fitting (room : Nat) : Text → Text
  | [] => []
  | c :: rest =>
      let width := (encodeCodePoint c).length
      if width ≤ room then c :: fitting (room - width) rest else []

inductive Reason where
  | invalidStart
  | invalidContinuation
  | unexpectedEnd
  deriving DecidableEq, Repr

structure Defect where
  position : Nat
  width : Nat
  first : UInt8
  reason : Reason
  deriving DecidableEq, Repr

namespace Reason

def text : Reason → Text
  | .invalidStart => "invalid start byte"
  | .invalidContinuation => "invalid continuation byte"
  | .unexpectedEnd => "unexpected end of data"

end Reason

namespace Defect

def message (d : Defect) : Text :=
  let place : Text :=
    if d.width = 1 then
      Text.join ["byte 0x", Text.hex 2 d.first.toNat, " in position ", Text.ofNat d.position]
    else
      Text.join ["bytes in position ", Text.ofNat d.position, "-",
        Text.ofNat (d.position + d.width - 1)]
  Text.join ["'utf-8' codec can't decode ", place, ": ", d.reason.text]

end Defect

def blame (first : UInt8) : Bytes → Nat × Reason
  | [] => (1, .unexpectedEnd)
  | b :: rest =>
      if !isSecond first b then (1, .invalidContinuation)
      else match rest with
        | [] => (2, .unexpectedEnd)
        | c :: rest =>
            if !isTail c then (2, .invalidContinuation)
            else match rest with
              | [] => (3, .unexpectedEnd)
              | _ :: _ => (3, .invalidContinuation)

def defectAt (position : Nat) (first : UInt8) (rest : Bytes) : Defect :=
  match tailLength first with
  | none => ⟨position, 1, first, .invalidStart⟩
  | some _ =>
      match blame first rest with
      | (width, .unexpectedEnd) => ⟨0, width, first, .unexpectedEnd⟩
      | (width, reason) => ⟨position, width, first, reason⟩

def isHalfSurrogate : Bytes → Bool
  | [0xED, b] => 0xA0 ≤ b && b ≤ 0xBF
  | _ => false

def isBegun (position : Nat) (first : UInt8) (rest : Bytes) : Bool :=
  (defectAt position first rest).reason = .unexpectedEnd || isHalfSurrogate (first :: rest)

def partFrom (done : Text) (position : Nat) : Nat → Bytes → Except Defect (Text × Bytes)
  | _, [] => .ok (done.reverse, [])
  | skip + 1, _ :: rest => partFrom done (position + 1) skip rest
  | 0, a :: rest =>
      match character? (a :: rest) with
      | some (c, n) => partFrom (c :: done) (position + 1) n rest
      | none =>
          if isBegun position a rest then .ok (done.reverse, a :: rest)
          else .error (defectAt position a rest)

def decodePart (bytes : Bytes) : Except Defect (Text × Bytes) :=
  partFrom [] 0 0 bytes

def strictFrom (done : Text) (position : Nat) : Nat → Bytes → Except Defect Text
  | _, [] => .ok done.reverse
  | skip + 1, _ :: rest => strictFrom done (position + 1) skip rest
  | 0, a :: rest =>
      match character? (a :: rest) with
      | some (c, n) => strictFrom (c :: done) (position + 1) n rest
      | none => .error (defectAt position a rest)

def decodeStrict (bytes : Bytes) : Except Defect Text :=
  strictFrom [] 0 0 bytes

end SubtreePartition.Utf8
