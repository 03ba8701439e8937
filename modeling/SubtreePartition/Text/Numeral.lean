import SubtreePartition.Text.Quoted

namespace SubtreePartition.Text

/-- The zeros of the scripts that write numbers in tens (Unicode 14); the other nine digits follow
each of them in order. -/
def scriptZeros : List CodePoint := [
    0x30, 0x660, 0x6F0, 0x7C0, 0x966, 0x9E6, 0xA66, 0xAE6, 0xB66, 0xBE6, 0xC66, 0xCE6, 0xD66,
    0xDE6, 0xE50, 0xED0, 0xF20, 0x1040, 0x1090, 0x17E0, 0x1810, 0x1946, 0x19D0, 0x1A80, 0x1A90,
    0x1B50, 0x1BB0, 0x1C40, 0x1C50, 0xA620, 0xA8D0, 0xA900, 0xA9D0, 0xA9F0, 0xAA50, 0xABF0,
    0xFF10, 0x104A0, 0x10D30, 0x11066, 0x110F0, 0x11136, 0x111D0, 0x112F0, 0x11450, 0x114D0,
    0x11650, 0x116C0, 0x11730, 0x118E0, 0x11950, 0x11C50, 0x11D50, 0x11DA0, 0x16A60, 0x16AC0,
    0x16B50, 0x1D7CE, 0x1D7D8, 0x1D7E2, 0x1D7EC, 0x1D7F6, 0x1E140, 0x1E2F0, 0x1E950, 0x1FBF0]

def plainDigit (c : CodePoint) : CodePoint :=
  if c < 0x80 then c
  else
    match scriptZeros.find? fun first => first ≤ c && c ≤ first + 9 with
    | some first => 48 + (c - first)
    | none => c

def baseMark? (base : Nat) : Option CodePoint :=
  if base = 2 then some 98 else if base = 8 then some 111 else if base = 16 then some 120 else none

def dropBaseMark (base : Nat) : Text → Text
  | 48 :: mark :: rest =>
      if (baseMark? base).any fun m => lower [mark] = [m] then
        match rest with
        | 95 :: more => more
        | _ => rest
      else 48 :: mark :: rest
  | t => t

def longestNumeral : Nat := 4300

inductive NumeralFault where
  | malformed (base : Nat) (t : Text)
  | tooLong (digits : Nat)
  deriving DecidableEq, Repr

namespace NumeralFault

def shownLength : Nat := 200

def message : NumeralFault → Text
  | .malformed base t =>
      join ["invalid literal for int() with base ", ofNat base, ": ",
        (quoted t).take shownLength]
  | .tooLong digits =>
      join ["Exceeds the limit (", ofNat longestNumeral,
        " digits) for integer string conversion: value has ", ofNat digits,
        " digits; use sys.set_int_max_str_digits() to increase the limit"]

end NumeralFault

def isRowPart (base : Nat) (c : CodePoint) : Bool :=
  c = 95 || (hexValue c).any (· < base)

def numeral (base : Nat) (t : Text) : Except NumeralFault Int :=
  let (negative, digits) := splitSign (trim isBlank (t.map plainDigit))
  let digits := dropBaseMark base digits
  let row := digits.takeWhile (isRowPart base)
  let bare := row.filter (· ≠ 95)
  if bare.isEmpty || !lowLinesInside row then .error (.malformed base t)
  else if base = 10 && longestNumeral < bare.length then .error (.tooLong bare.length)
  else if row.length < digits.length then .error (.malformed base t)
  else
    match digitsValue base bare with
    | none => .error (.malformed base t)
    | some n => .ok (signed negative n)

end SubtreePartition.Text
