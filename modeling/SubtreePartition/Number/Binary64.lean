import SubtreePartition.Text.Numeral

namespace SubtreePartition

/-- The numbers of the 64-bit binary format. A finite one is kept as a whole number of units of
`2 ^ -1074`, the smallest distance between two of them. -/
inductive Binary64 where
  | finite (negative : Bool) (units : Nat)
  | infinite (negative : Bool)
  | nan
  deriving DecidableEq, Repr

namespace Binary64

def one : Nat := Nat.pow 2 1074

def roundHalfEven (a b : Nat) : Nat :=
  let q := a / b
  let r := a % b
  if 2 * r < b then q else if b < 2 * r then q + 1 else q + q % 2

def spacing (units : Nat) : Nat :=
  Nat.pow 2 (units.log2 - 52)

def ofRatio (negative : Bool) (num den : Nat) : Binary64 :=
  let exact := num * one
  let step := spacing (exact / den)
  let units := roundHalfEven exact (den * step) * step
  if units < Nat.pow 2 2098 then .finite negative units else .infinite negative

def ofScientific (negative : Bool) (digits : Nat) (exponent : Int) : Binary64 :=
  let top : Int := (Text.ofNat digits).length + exponent
  if digits = 0 ∨ top < -330 then .finite negative 0
  else if 310 < top then .infinite negative
  else if exponent < 0 then ofRatio negative digits (Nat.pow 10 exponent.natAbs)
  else ofRatio negative (digits * Nat.pow 10 exponent.natAbs) 1

def zero : Binary64 := .finite false 0

def ofNat (n : Nat) : Binary64 := ofRatio false n 1

def negate : Binary64 → Binary64
  | .finite negative units => .finite (!negative) units
  | .infinite negative => .infinite (!negative)
  | .nan => .nan

def ofUnits (units : Int) : Binary64 :=
  ofRatio (units < 0) units.natAbs one

def add : Binary64 → Binary64 → Binary64
  | .finite m a, .finite n b =>
      if m = n then ofRatio m (a + b) one
      else ofUnits (Text.signed m a + Text.signed n b)
  | .nan, _ | _, .nan => .nan
  | .infinite m, .infinite n => if m = n then .infinite m else .nan
  | .infinite m, .finite .. | .finite .., .infinite m => .infinite m

def mul : Binary64 → Binary64 → Binary64
  | .finite m a, .finite n b => ofRatio (m != n) (a * b) (one * one)
  | .nan, _ | _, .nan => .nan
  | .infinite m, .infinite n => .infinite (m != n)
  | .infinite m, .finite n a | .finite n a, .infinite m =>
      if a = 0 then .nan else .infinite (m != n)

def integer? : Binary64 → Option Int
  | .finite negative units =>
      if units % one = 0 then some (Text.signed negative (units / one)) else none
  | _ => none

def isFinite : Binary64 → Bool
  | .finite .. => true
  | _ => false

def magnitude? (negative : Bool) (t : Text) : Option Binary64 :=
  let whole := t.takeWhile Text.isDigit
  let rest := t.dropWhile Text.isDigit
  let (fraction, rest) : Text × Text :=
    match rest with
    | 46 :: more => (more.takeWhile Text.isDigit, more.dropWhile Text.isDigit)
    | _ => ([], rest)
  let exponent? : Option Int :=
    match rest with
    | [] => some 0
    | e :: more =>
        let (minus, digits) := Text.splitSign more
        if (e = 101 || e = 69) && !digits.isEmpty && digits.all Text.isDigit then
          (Text.digitsValue 10 digits).map (Text.signed minus)
        else none
  match exponent?, Text.digitsValue 10 (whole ++ fraction) with
  | some exponent, some digits =>
      if whole.isEmpty && fraction.isEmpty then none
      else some (ofScientific negative digits (exponent - fraction.length))
  | _, _ => none

def word? (negative : Bool) (t : Text) : Option Binary64 :=
  if t = ("inf" : Text) ∨ t = ("infinity" : Text) then some (.infinite negative)
  else if t = ("nan" : Text) then some .nan
  else none

def ofText? (t : Text) : Option Binary64 :=
  let (negative, rest) := Text.splitSign (Text.trim Text.isBlank (t.map Text.plainDigit))
  (magnitude? negative rest).or (word? negative (Text.lower rest))

structure Digits where
  digits : Text
  point : Int
  deriving DecidableEq, Repr

def readsBack (units coefficient : Nat) (exponent : Int) : Bool :=
  ofScientific false coefficient exponent = .finite false units

def neighbours (units : Nat) (exponent : Int) : List Nat :=
  let num := if exponent < 0 then units * Nat.pow 10 exponent.natAbs else units
  let den := if exponent < 0 then one else one * Nat.pow 10 exponent.natAbs
  let low := num / den
  if 2 * (num % den) < den then [low, low + 1] else [low + 1, low]

def shortestFrom (units : Nat) (point : Int) : Nat → Nat → Digits
  | _, 0 => ⟨[], point⟩
  | count, fuel + 1 =>
      let exponent := point - count
      match (neighbours units exponent).find? fun c => readsBack units c exponent with
      | some c =>
          let digits := Text.ofNat c
          ⟨Text.dropRight (· = 48) digits, digits.length + exponent⟩
      | none => shortestFrom units point (count + 1) fuel

def pointOf (units : Nat) : Int :=
  if one ≤ units then (Text.ofNat (units / one)).length
  else 1 - (Text.ofNat (one / units)).length

def shortest (units : Nat) : Digits :=
  shortestFrom units (pointOf units) 1 18

def zeros (n : Nat) : Text :=
  List.replicate n 48

def Digits.text (d : Digits) : Text :=
  if -4 < d.point ∧ d.point ≤ 0 then
    Text.join ["0.", zeros d.point.natAbs, d.digits]
  else if 0 < d.point ∧ d.point ≤ 16 then
    let whole := d.point.toNat
    let fraction := d.digits.drop whole
    Text.join [d.digits.take whole, zeros (whole - d.digits.length), ".",
      if fraction.isEmpty then ("0" : Text) else fraction]
  else
    let exponent := d.point - 1
    let places := Text.ofNat exponent.natAbs
    Text.join [d.digits.take 1,
      if d.digits.length ≤ 1 then [] else 46 :: d.digits.drop 1,
      if exponent < 0 then "e-" else "e+",
      zeros (2 - places.length), places]

def text : Binary64 → Text
  | .nan => "nan"
  | .infinite negative => if negative then "-inf" else "inf"
  | .finite negative units =>
      (if negative then [45] else []) ++
        (if units = 0 then ("0.0" : Text) else (shortest units).text)

end Binary64

end SubtreePartition
