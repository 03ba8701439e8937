import SubtreePartition.Text.Decimal
import SubtreePartition.Text.LineEnd

namespace SubtreePartition.Markup

inductive LiteralNumber where
  | integer (n : Nat)
  | real
  | imaginary
  deriving DecidableEq, Repr

inductive LiteralToken where
  | number (n : LiteralNumber)
  | string (octets : Bool)
  | name (t : Text)
  | sign (c : CodePoint)
  | dots
  | lineEnd
  deriving DecidableEq, Repr

namespace LiteralToken

def digitRow (p : CodePoint → Bool) (done : Text) : Text → Option (Text × Text)
  | [] => some (done.reverse, [])
  | [95] => none
  | 95 :: c :: rest => if p c then digitRow p (c :: done) rest else none
  | c :: rest => if p c then digitRow p (c :: done) rest else some (done.reverse, c :: rest)

def startsWithDigit (t : Text) : Bool :=
  t.head?.any Text.isDigit

def fraction (t : Text) : Option (Bool × Text) :=
  match t with
  | 46 :: rest =>
      if startsWithDigit rest then (digitRow Text.isDigit [] rest).map fun r => (true, r.2)
      else some (true, rest)
  | _ => some (false, t)

def exponent (t : Text) : Option (Bool × Text) :=
  match t with
  | c :: rest =>
      if c = 101 || c = 69 then
        let digits := (Text.splitSign rest).2
        if startsWithDigit digits then
          (digitRow Text.isDigit [] digits).map fun r => (true, r.2)
        else none
      else some (false, t)
  | [] => some (false, t)

def longestInteger : Nat := 4300

def integer? (digits : Text) : Option LiteralNumber :=
  if digits.all (· = 48) then some (.integer 0)
  else if digits.head? = some 48 || longestInteger < digits.length then none
  else (Text.digitsValue 10 digits).map .integer

def decimal (t : Text) : Option (LiteralNumber × Text) := do
  let (whole, rest) ← digitRow Text.isDigit [] t
  let (hasPoint, rest) ← fraction rest
  let (hasExponent, rest) ← exponent rest
  match rest with
  | c :: more =>
      if c = 106 || c = 74 then return (.imaginary, more)
  | [] => pure ()
  if hasPoint || hasExponent then return (.real, rest)
  return (← integer? whole, rest)

def baseOfMark? (c : CodePoint) : Option Nat :=
  if c = 120 || c = 88 then some 16
  else if c = 111 || c = 79 then some 8
  else if c = 98 || c = 66 then some 2
  else none

def isDigitOf (base : Nat) (c : CodePoint) : Bool :=
  (Text.hexValue c).any (· < base)

def inBase (base : Nat) (t : Text) : Option (LiteralNumber × Text) := do
  let (digits, rest) ← digitRow (isDigitOf base) [] t
  if digits.isEmpty then none
  else return (.integer (← Text.digitsValue base digits), rest)

def numberOf (t : Text) : Option (LiteralNumber × Text) :=
  match t with
  | 48 :: c :: rest =>
      match baseOfMark? c with
      | some base => inBase base rest
      | none => decimal t
  | _ => decimal t

def isNameStart (c : CodePoint) : Bool :=
  Text.isLetter c || c = 95 || 0x80 ≤ c

def isNamePart (c : CodePoint) : Bool :=
  isNameStart c || Text.isDigit c

def isQuote (c : CodePoint) : Bool :=
  c = 34 || c = 39

def stringKind? (letters : Text) : Option (Bool × Bool) :=
  let small := Text.lower letters
  if small = [] || small = ("u" : Text) then some (false, false)
  else if small = ("r" : Text) then some (false, true)
  else if small = ("b" : Text) then some (true, false)
  else if small = ("br" : Text) || small = ("rb" : Text) then some (true, true)
  else none

def untilQuote (quote : CodePoint) (done : Text) : Text → Option (Text × Text)
  | [] | [92] => none
  | 92 :: c :: rest => untilQuote quote (c :: 92 :: done) rest
  | c :: rest =>
      if c = quote then some (done.reverse, rest)
      else if c = Text.lineFeed then none
      else untilQuote quote (c :: done) rest

def untilQuotes (quote : CodePoint) (done : Text) : Text → Option (Text × Text)
  | [] | [92] => none
  | 92 :: c :: rest => untilQuotes quote (c :: 92 :: done) rest
  | c :: rest =>
      if c = quote && rest.take 2 = [quote, quote] then some (done.reverse, rest.drop 2)
      else untilQuotes quote (c :: done) rest

def escapeWidth (octets : Bool) (c : CodePoint) : Nat :=
  if c = 120 then 2
  else if octets then 0
  else if c = 117 then 4
  else if c = 85 then 8
  else 0

def lastCodePoint : Nat := 0x10FFFF

def isEscape (width : Nat) (digits : Text) : Bool :=
  digits.length = width && (width = 0 || (Text.digitsValue 16 digits).any (· ≤ lastCodePoint))

def escapesHold (octets : Bool) : Text → Bool
  | [] => true
  | 92 :: c :: rest =>
      isEscape (escapeWidth octets c) (rest.take (escapeWidth octets c)) &&
        (octets || c ≠ 78) && escapesHold octets rest
  | _ :: rest => escapesHold octets rest

def stringOf (octets raw : Bool) (t : Text) : Option (LiteralToken × Text) := do
  let (inside, rest) ←
    match t with
    | q :: rest =>
        if rest.take 2 = [q, q] then untilQuotes q [] (rest.drop 2) else untilQuote q [] rest
    | [] => none
  if (octets && inside.any (0x80 ≤ ·)) || !(raw || escapesHold octets inside) then none
  else return (.string octets, rest)

def word (t : Text) : Option (LiteralToken × Text) :=
  let letters := t.takeWhile isNamePart
  let rest := t.drop letters.length
  if rest.head?.any isQuote then
    match stringKind? letters with
    | some (octets, raw) => stringOf octets raw rest
    | none => none
  else some (.name letters, rest)

def first? : Text → Option (LiteralToken × Text)
  | [] => none
  | c :: rest =>
      let t := c :: rest
      if c = Text.lineFeed then some (.lineEnd, rest)
      else if Text.isDigit c || (c = 46 && startsWithDigit rest) then
        (numberOf t).map fun r => (.number r.1, r.2)
      else if isNameStart c || isQuote c then word t
      else if rest.take 2 = [46, 46] && c = 46 then some (.dots, rest.drop 2)
      else some (.sign c, rest)

def skipBlanks : Text → Text
  | 92 :: 10 :: rest => skipBlanks rest
  | c :: rest =>
      if c = 32 || c = 9 || c = 12 then skipBlanks rest
      else if c = 35 then rest.dropWhile (· ≠ Text.lineFeed)
      else c :: rest
  | [] => []

def allFrom (done : List LiteralToken) : Nat → Text → Option (List LiteralToken)
  | 0, _ => none
  | fuel + 1, t =>
      match skipBlanks t with
      | [] => some done.reverse
      | t =>
          match first? t with
          | some (token, rest) => allFrom (token :: done) fuel rest
          | none => none

def all (t : Text) : Option (List LiteralToken) :=
  if t.any fun c => c = 0 || Text.isSurrogate c then none
  else allFrom [] (t.length + 1) (Text.unifyLineEnds t)

end LiteralToken

end SubtreePartition.Markup
