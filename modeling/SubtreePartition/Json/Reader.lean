import SubtreePartition.Json.Value

namespace SubtreePartition.Json

def isSpace (c : CodePoint) : Bool :=
  c == 32 || c == 9 || c == 10 || c == 13

def skipSpace (t : Text) : Text :=
  t.dropWhile isSpace

def shortEscape : CodePoint → Option CodePoint
  | 34 => some 34
  | 92 => some 92
  | 47 => some 47
  | 98 => some 8
  | 102 => some 12
  | 110 => some 10
  | 114 => some 13
  | 116 => some 9
  | _ => none

def hex4 (a b c d : CodePoint) : Option Nat :=
  Text.digitsValue 16 [a, b, c, d]

def lowHalf? : Text → Option CodePoint
  | 92 :: 117 :: a :: b :: c :: d :: _ :: _ =>
      (hex4 a b c d).filter Text.isLowSurrogate
  | _ => none

/-- The inside of a string up to its closing quote, and what follows the quote. `skip` counts the
characters that belong to an escape already read. -/
def stringFrom (done : Text) : Nat → Text → Except Fault (Text × Text)
  | _, [] => .error .unterminatedString
  | skip + 1, _ :: rest => stringFrom done skip rest
  | 0, c :: rest =>
      if c = 34 then .ok (done.reverse, rest)
      else if c = 92 then
        match rest with
        | [] => .error .unterminatedString
        | 117 :: a :: b :: c :: d :: next :: more =>
            match hex4 a b c d with
            | none => .error .unicodeEscape
            | some u =>
                match (if Text.isHighSurrogate u then lowHalf? (next :: more) else none) with
                | some low => stringFrom (Text.joinSurrogates u low :: done) 11 rest
                | none => stringFrom (u :: done) 5 rest
        | 117 :: _ => .error .unicodeEscape
        | e :: _ =>
            match shortEscape e with
            | some x => stringFrom (x :: done) 1 rest
            | none => .error .escape
      else if c ≤ 31 then .error .controlCharacter
      else stringFrom (c :: done) 0 rest

def string (t : Text) : Except Fault (Text × Text) :=
  stringFrom [] 0 t

def wholePart : Text → Text × Text
  | 48 :: rest => ([48], rest)
  | t => (t.takeWhile Text.isDigit, t.dropWhile Text.isDigit)

def fractionPart : Text → Text × Text
  | 46 :: d :: rest =>
      if Text.isDigit d then
        (46 :: d :: rest.takeWhile Text.isDigit, rest.dropWhile Text.isDigit)
      else ([], 46 :: d :: rest)
  | t => ([], t)

def exponentSign : Text → Text × Text
  | 43 :: rest => ([43], rest)
  | 45 :: rest => ([45], rest)
  | t => ([], t)

def exponentPart : Text → Text × Text
  | e :: rest =>
      if e = 101 || e = 69 then
        let (sign, digits) := exponentSign rest
        if (digits.takeWhile Text.isDigit).isEmpty then ([], e :: rest)
        else (e :: (sign ++ digits.takeWhile Text.isDigit), digits.dropWhile Text.isDigit)
      else ([], e :: rest)
  | [] => ([], [])

def magnitude (negative : Bool) (t : Text) : Except Fault (Value × Text) :=
  let (whole, rest) := wholePart t
  if whole.isEmpty then .error .value
  else
    let (fraction, rest) := fractionPart rest
    let (exponent, rest) := exponentPart rest
    if fraction.isEmpty && exponent.isEmpty then
      if Text.longestNumeral < whole.length then .error (.longInteger whole.length)
      else
        match Text.digitsValue 10 whole with
        | some n => .ok (.integer (Text.signed negative n), rest)
        | none => .error .value
    else
      .ok (.real ((if negative then [45] else []) ++ (whole ++ (fraction ++ exponent))), rest)

def number (t : Text) : Except Fault (Value × Text) :=
  match t with
  | 45 :: rest => magnitude true rest
  | _ => magnitude false t

def words : List (Text × Value) :=
  [("null", .null), ("true", .bool true), ("false", .bool false), ("NaN", .real "NaN"),
    ("Infinity", .real "Infinity"), ("-Infinity", .real "-Infinity")]

def word? (t : Text) : Option (Value × Text) :=
  (words.find? fun w => w.1.isPrefixOf t).map fun w => (w.2, t.drop w.1.length)

def atom (t : Text) : Except Fault (Value × Text) :=
  match t with
  | 34 :: rest => (string rest).map fun (s, more) => (.text s, more)
  | _ =>
      match word? t with
      | some found => .ok found
      | none => number t

def name (t : Text) : Except Fault (Text × Text) :=
  match t with
  | 34 :: rest => do
      let (key, more) ← string rest
      match skipSpace more with
      | 58 :: after => .ok (key, skipSpace after)
      | _ => .error .colon
  | _ => .error .propertyName

mutual

def valueWith : Nat → Text → Except Fault (Value × Text)
  | 0, _ => .error .value
  | fuel + 1, t =>
      match t with
      | 91 :: rest =>
          match skipSpace rest with
          | 93 :: after => .ok (.array [], after)
          | more => itemsWith fuel [] more
      | 123 :: rest =>
          match skipSpace rest with
          | 125 :: after => .ok (.object [], after)
          | more => membersWith fuel [] more
      | _ => atom t

def itemsWith : Nat → List Value → Text → Except Fault (Value × Text)
  | 0, _, _ => .error .value
  | fuel + 1, done, t => do
      let (v, more) ← valueWith fuel t
      match skipSpace more with
      | 93 :: after => .ok (.array (v :: done).reverse, after)
      | 44 :: after => itemsWith fuel (v :: done) (skipSpace after)
      | _ => .error .comma

def membersWith : Nat → List (Text × Value) → Text → Except Fault (Value × Text)
  | 0, _, _ => .error .value
  | fuel + 1, done, t => do
      let (key, more) ← name t
      let (v, more) ← valueWith fuel more
      match skipSpace more with
      | 125 :: after => .ok (.object ((key, v) :: done).reverse, after)
      | 44 :: after => membersWith fuel ((key, v) :: done) (skipSpace after)
      | _ => .error .comma

end

/-- Every call takes a character off the text within two steps. -/
def value (t : Text) : Except Fault (Value × Text) :=
  valueWith (2 * t.length + 2) t

def read (t : Text) : Except Fault Value :=
  match t with
  | 0xFEFF :: _ => .error .byteOrderMark
  | _ => do
      let (v, rest) ← value (skipSpace t)
      match skipSpace rest with
      | [] => .ok v
      | _ => .error .extraData

end SubtreePartition.Json
