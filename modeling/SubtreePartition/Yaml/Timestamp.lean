import SubtreePartition.Datum.Basic
import SubtreePartition.Yaml.Cursor

namespace SubtreePartition.Yaml

inductive Timestamp where
  | date (d : Day)
  | time (m : Moment)
  deriving DecidableEq, Repr

namespace Timestamp

def number (least most : Nat) (t : Text) : Option (Nat × Text) :=
  let digits := (t.take most).takeWhile Text.isDigit
  if digits.length < least then none
  else (Text.digitsValue 10 digits).map fun n => (n, t.drop digits.length)

def expect (c : CodePoint) : Text → Option Text
  | [] => none
  | d :: rest => if c = d then some rest else none

def microseconds (digits : Text) : Nat :=
  (Text.digitsValue 10 (digits.take 6 ++ List.replicate (6 - digits.length) 48)).getD 0

def fraction : Text → Nat × Text
  | 46 :: rest => (microseconds (rest.takeWhile Text.isDigit), rest.dropWhile Text.isDigit)
  | t => (0, t)

def offset : Text → Option Int
  | [90] => some 0
  | sign :: rest => do
      if sign ≠ 43 ∧ sign ≠ 45 then none
      else
        let (hours, rest) ← number 1 2 rest
        let (minutes, rest) ← match rest with
          | 58 :: more => number 2 2 more
          | _ => some (0, rest)
        if rest.isEmpty then some (Text.signed (sign = 45) (hours * 60 + minutes)) else none
  | [] => none

def zone (t : Text) : Option (Option Int) :=
  if t.isEmpty then some none else (offset (t.dropWhile isSpaceOrTab)).map some

def dropTimeMark : Text → Option Text
  | c :: rest =>
      if c = 84 ∨ c = 116 then some rest
      else if isSpaceOrTab c then some (rest.dropWhile isSpaceOrTab)
      else none
  | [] => none

def timeOf (day : Day) (t : Text) : Option Timestamp := do
  let (hour, t) ← number 1 2 (← dropTimeMark t)
  let (minute, t) ← number 2 2 (← expect 58 t)
  let (second, t) ← number 2 2 (← expect 58 t)
  let (microsecond, t) := fraction t
  let offset ← zone t
  return .time { day, hour, minute, second, microsecond, offset }

def ofText? (t : Text) : Option Timestamp := do
  let (year, t) ← number 4 4 t
  let (month, t) ← number 1 2 (← expect 45 t)
  let (day, t) ← number 1 2 (← expect 45 t)
  if t.isEmpty then return .date ⟨year, month, day⟩ else timeOf ⟨year, month, day⟩ t

def isPlain (t : Text) : Bool :=
  match ofText? t with
  | some (.date _) => t.length = 10
  | some (.time _) => true
  | none => false

def scalar : Timestamp → Except Fault Scalar
  | .date d => match d.fault? with
      | none => .ok (.day d)
      | some fault => .error (.calendar fault)
  | .time m => match m.fault? with
      | none => .ok (.moment m)
      | some fault => .error (.calendar fault)

end Timestamp

end SubtreePartition.Yaml
