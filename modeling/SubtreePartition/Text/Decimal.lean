import SubtreePartition.Text.Basic

namespace SubtreePartition.Text

def ofNat (n : Nat) : Text :=
  (Nat.toDigits 10 n).map Char.toNat

def ofInt : Int → Text
  | .ofNat n => ofNat n
  | .negSucc n => 45 :: ofNat (n + 1)

def digitsValue (base : Nat) (t : Text) : Option Nat :=
  t.foldl
    (fun total c => do
      let n ← total
      let d ← hexValue c
      if d < base then some (n * base + d) else none)
    (some 0)

def hex (width n : Nat) : Text :=
  let digits := (Nat.toDigits 16 n).map Char.toNat
  List.replicate (width - digits.length) 48 ++ digits

def lowLinesInside : Text → Bool
  | 95 :: _ => false
  | [_, 95] => false
  | _ :: 95 :: 95 :: _ => false
  | _ :: 95 :: c :: rest => lowLinesInside (c :: rest)
  | _ :: rest => lowLinesInside rest
  | [] => true

def splitSign : Text → Bool × Text
  | 45 :: rest => (true, rest)
  | 43 :: rest => (false, rest)
  | t => (false, t)

def signed (negative : Bool) (n : Nat) : Int :=
  if negative then -(n : Int) else n

end SubtreePartition.Text
