import SubtreePartition.Datum.Issue

namespace SubtreePartition.Datum

open Checked

def dropPlus : Text → Option Text
  | 43 :: 45 :: _ => none
  | 43 :: rest => some rest
  | t => some t

def startsInteger (c : CodePoint) : Bool :=
  c = 45 || (Text.isDigit c && c ≠ 48)

def dropZerosFrom (last : CodePoint) : Text → Option Text
  | [] => some [last]
  | c :: rest =>
      if c = 48 || c = 95 then dropZerosFrom c rest
      else if startsInteger c then some (c :: rest)
      else if c = 46 then some (last :: c :: rest)
      else none

def dropLeadingZeros : Text → Option Text
  | [] => none
  | c :: rest =>
      if c = 48 then dropZerosFrom c rest
      else if startsInteger c then some (c :: rest)
      else none

def dropZeroFraction (t : Text) : Text :=
  match Text.cutAt 46 t with
  | some (whole, fraction) =>
      if !fraction.isEmpty && fraction.all (· = 48) then whole else t
  | none => t

def dropLowLines (t : Text) : Option Text :=
  if Text.lowLinesInside t then some (t.filter (· ≠ 95)) else none

def bareInteger? (t : Text) : Option Text := do
  let t ← dropPlus (Text.trim Text.isBlank t)
  let t ← dropLeadingZeros t
  dropLowLines (dropZeroFraction t)

def longestInteger : Nat := 4300

def integerOfBare (t : Text) : Checked Int :=
  let digits := if t.head? = some 45 then t.tail else t
  let number := digits.takeWhile Text.isDigit
  if number.isEmpty || (number.head? = some 48 && number.length ≠ 1) then fail .integerSyntax
  else if longestInteger < number.length + (t.length - digits.length) then fail .integerTooLong
  else if number.length < digits.length then fail .integerSyntax
  else
    match Text.digitsValue 10 number with
    | some n => .ok (Text.signed (t.head? = some 45) n)
    | none => fail .integerSyntax

def integerOfText (t : Text) : Checked Int :=
  match bareInteger? t with
  | some t => integerOfBare t
  | none => fail .integerSyntax

def fitsInt64 (n : Int) : Bool :=
  -0x8000000000000000 ≤ n && n < 0x8000000000000000

def integerOfReal (x : Binary64) : Checked Int :=
  match x.integer? with
  | some n => if n.natAbs < 0x8000000000000000 then .ok n else fail .integerTooLong
  | none => fail (if x.isFinite then .fractional else .notFinite)

end SubtreePartition.Datum
