import SubtreePartition.Text.Numeral
import SubtreePartition.Yaml.Cursor

namespace SubtreePartition.Yaml

def isDigitOrLine (c : CodePoint) : Bool :=
  Text.isDigit c || c == 95

def isDigits : Text → Bool
  | c :: rest => Text.isDigit c && rest.all isDigitOrLine
  | [] => false

def isSixtieth : Text → Bool
  | [c] => Text.isDigit c
  | [c, d] => Text.isDigit c && c < 54 && Text.isDigit d
  | _ => false

def isSexagesimal (first : Text → Bool) (t : Text) : Bool :=
  match Text.pieces 58 t with
  | whole :: place :: places => first whole && (place :: places).all isSixtieth
  | _ => false

namespace Integer

def isCounting (t : Text) : Bool :=
  isDigits t && t.head? != some 48

def isUnsigned : Text → Bool
  | 48 :: 98 :: digits => !digits.isEmpty && digits.all fun c => c == 48 || c == 49 || c == 95
  | 48 :: 120 :: digits =>
      !digits.isEmpty && digits.all fun c => (Text.hexValue c).isSome || c == 95
  | 48 :: digits => digits.all fun c => (48 ≤ c && c ≤ 55) || c == 95
  | t => isCounting t || isSexagesimal isCounting t

def isPlain (t : Text) : Bool :=
  isUnsigned (Text.splitSign t).2

def numeral (base : Nat) (t : Text) : Except Fault Int :=
  (Text.numeral base t).mapError .numeral

def sexagesimal (t : Text) : Except Fault Int := do
  let places ← (Text.pieces 58 t).mapM (numeral 10)
  return places.foldl (fun n place => n * 60 + place) 0

def unsigned : Text → Except Fault Int
  | [] => .error .emptyNumber
  | 48 :: 98 :: rest => numeral 2 rest
  | 48 :: 120 :: rest => numeral 16 rest
  | 48 :: rest => numeral 8 (48 :: rest)
  | t => if t.contains 58 then sexagesimal t else numeral 10 t

def value (t : Text) : Except Fault Int :=
  let (negative, digits) := Text.splitSign (t.filter (· ≠ 95))
  (unsigned digits).map fun n => if negative then -n else n

end Integer

end SubtreePartition.Yaml
