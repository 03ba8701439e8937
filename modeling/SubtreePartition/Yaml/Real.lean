import SubtreePartition.Number.Binary64
import SubtreePartition.Text.Case
import SubtreePartition.Yaml.Integer

namespace SubtreePartition.Yaml.Real

def isExponent : Text → Bool
  | [] => true
  | e :: sign :: digits =>
      (e == 101 || e == 69) && (sign == 43 || sign == 45) && !digits.isEmpty &&
        digits.all Text.isDigit
  | _ => false

def isPlain (t : Text) : Bool :=
  let unsigned := (Text.splitSign t).2
  match Text.cutAt 46 unsigned with
  | none => false
  | some ([], fraction) =>
      (["inf", "Inf", "INF"] : List Text).contains fraction ||
        (t.head? == some 46 &&
          ((["nan", "NaN", "NAN"] : List Text).contains fraction ||
            (isDigits (fraction.takeWhile isDigitOrLine) &&
              isExponent (fraction.dropWhile isDigitOrLine))))
  | some (whole, fraction) =>
      let tail := fraction.dropWhile isDigitOrLine
      (isDigits whole && isExponent tail) || (isSexagesimal isDigits whole && tail.isEmpty)

def decimal (t : Text) : Except Fault Binary64 :=
  match Binary64.ofText? t with
  | some x => .ok x
  | none => .error (.notReal t)

def weigh (total : Binary64) (weight : Nat) : List Binary64 → Except Fault Binary64
  | [] => .ok total
  | place :: rest =>
      let w := Binary64.ofNat weight
      if w.isFinite then weigh (total.add (place.mul w)) (weight * 60) rest else .error .tooLarge

def sexagesimal (t : Text) : Except Fault Binary64 := do
  let places ← (Text.pieces 58 t).mapM decimal
  weigh .zero 1 places.reverse

def nanName : Text := ".nan"

def unsigned (t : Text) : Except Fault Binary64 :=
  if t = (".inf" : Text) then .ok (.infinite false)
  else if t = nanName then .ok .nan
  else if t.contains 58 then sexagesimal t
  else decimal t

def bare (t : Text) : Text :=
  Text.lowercase (t.filter (· ≠ 95))

def value (t : Text) : Except Fault Binary64 :=
  match bare t with
  | [] => .error .emptyNumber
  | t =>
      let (negative, digits) := Text.splitSign t
      (unsigned digits).map fun x => if negative then x.negate else x

def namesNan (t : Text) : Bool :=
  (Text.splitSign (bare t)).2 = nanName

end SubtreePartition.Yaml.Real
