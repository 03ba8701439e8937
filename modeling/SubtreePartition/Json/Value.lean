import SubtreePartition.Text.Numeral

namespace SubtreePartition.Json

/-- A JSON value. A number with a fraction or an exponent, and the three numbers that are none, are
kept as they are written; an object keeps its members in order, repeated names included. -/
inductive Value where
  | null
  | bool (b : Bool)
  | integer (n : Int)
  | real (written : Text)
  | text (t : Text)
  | array (items : List Value)
  | object (members : List (Text × Value))
  deriving Repr, Inhabited

def member? (name : Text) (members : List (Text × Value)) : Option Value :=
  (members.reverse.find? fun m => m.1 = name).map Prod.snd

inductive Fault where
  | value
  | propertyName
  | colon
  | comma
  | unterminatedString
  | controlCharacter
  | escape
  | unicodeEscape
  | extraData
  | byteOrderMark
  | longInteger (digits : Nat)
  deriving DecidableEq, Repr

namespace Fault

def message : Fault → Text
  | .value => "Expecting value"
  | .propertyName => "Expecting property name enclosed in double quotes"
  | .colon => "Expecting ':' delimiter"
  | .comma => "Expecting ',' delimiter"
  | .unterminatedString => "Unterminated string starting at"
  | .controlCharacter => "Invalid control character at"
  | .escape => "Invalid \\escape"
  | .unicodeEscape => "Invalid \\uXXXX escape"
  | .extraData => "Extra data"
  | .byteOrderMark => "Unexpected UTF-8 BOM (decode using utf-8-sig)"
  | .longInteger digits => (Text.NumeralFault.tooLong digits).message

end Fault

end SubtreePartition.Json
