namespace SubtreePartition

/-- A text is a list of code points; unlike `String` it may hold lone surrogates, which stand for
bytes that are no text and for unpaired escapes. -/
abbrev CodePoint := Nat

abbrev Text := List CodePoint

abbrev Bytes := List UInt8

namespace Text

def ofString (s : String) : Text :=
  s.toList.map Char.toNat

instance : Coe String Text := ⟨ofString⟩

def toString? (t : Text) : Option String :=
  if t.all fun c => c.isValidChar then some (String.ofList (t.map Char.ofNat)) else none

def join (parts : List Text) : Text :=
  parts.flatten

def slash : CodePoint := 47

def lineFeed : CodePoint := 10

def carriageReturn : CodePoint := 13

def addToPieces (separator c : CodePoint) (pieces : List Text) : List Text :=
  if c = separator then [] :: pieces
  else match pieces with
    | [] => [[c]]
    | piece :: rest => (c :: piece) :: rest

def pieces (separator : CodePoint) (t : Text) : List Text :=
  t.foldr (addToPieces separator) [[]]

theorem pieces_nil (separator : CodePoint) : pieces separator [] = [[]] := rfl

theorem pieces_cons (separator c : CodePoint) (t : Text) :
    pieces separator (c :: t) = addToPieces separator c (pieces separator t) := rfl

theorem pieces_ne_nil (separator : CodePoint) (t : Text) : pieces separator t ≠ [] := by
  cases t with
  | nil => simp [pieces_nil]
  | cons c t =>
      rw [pieces_cons]
      unfold addToPieces
      split
      · simp
      · split <;> simp

def intercalate (separator : Text) : List Text → Text
  | [] => []
  | t :: rest => t ++ rest.flatMap (separator ++ ·)

theorem intercalate_cons_cons (separator t u : Text) (rest : List Text) :
    intercalate separator (t :: u :: rest) =
      t ++ (separator ++ intercalate separator (u :: rest)) := by
  simp [intercalate]

def cutAt (c : CodePoint) (t : Text) : Option (Text × Text) :=
  match t.dropWhile (· ≠ c) with
  | [] => none
  | _ :: rest => some (t.takeWhile (· ≠ c), rest)

def startsWith (t head : Text) : Bool :=
  head.isPrefixOf t

def ble : Text → Text → Bool
  | [], _ => true
  | _ :: _, [] => false
  | a :: s, b :: t => a < b || (a == b && ble s t)

def isDigit (c : CodePoint) : Bool :=
  48 ≤ c && c ≤ 57

def isUpper (c : CodePoint) : Bool :=
  65 ≤ c && c ≤ 90

def isLower (c : CodePoint) : Bool :=
  97 ≤ c && c ≤ 122

def isLetter (c : CodePoint) : Bool :=
  isUpper c || isLower c

def hexValue (c : CodePoint) : Option Nat :=
  if isDigit c then some (c - 48)
  else if 97 ≤ c && c ≤ 102 then some (c - 87)
  else if 65 ≤ c && c ≤ 70 then some (c - 55)
  else none

def lower (t : Text) : Text :=
  t.map fun c => if isUpper c then c + 32 else c

def isSurrogate (c : CodePoint) : Bool :=
  0xD800 ≤ c && c ≤ 0xDFFF

def isHighSurrogate (c : CodePoint) : Bool :=
  0xD800 ≤ c && c ≤ 0xDBFF

def isLowSurrogate (c : CodePoint) : Bool :=
  0xDC00 ≤ c && c ≤ 0xDFFF

def joinSurrogates (high low : CodePoint) : CodePoint :=
  0x10000 + (high - 0xD800) * 0x400 + (low - 0xDC00)

def isBlank (c : CodePoint) : Bool :=
  (9 ≤ c && c ≤ 13) || c == 0x20 || c == 0x85 || c == 0xA0 || c == 0x1680 ||
    (0x2000 ≤ c && c ≤ 0x200A) || c == 0x2028 || c == 0x2029 || c == 0x202F || c == 0x205F ||
    c == 0x3000

def isSpace (c : CodePoint) : Bool :=
  isBlank c || (0x1C ≤ c && c ≤ 0x1F)

def words (t : Text) : List Text :=
  (pieces 32 (t.map fun c => if isSpace c then 32 else c)).filter fun w => !w.isEmpty

def inRanges (ranges : List (CodePoint × CodePoint)) (c : CodePoint) : Bool :=
  ranges.any fun r => r.1 ≤ c && c ≤ r.2

def dropRight {α : Type} (p : α → Bool) (t : List α) : List α :=
  (t.reverse.dropWhile p).reverse

def trim (p : CodePoint → Bool) (t : Text) : Text :=
  dropRight p (t.dropWhile p)

end Text

end SubtreePartition
