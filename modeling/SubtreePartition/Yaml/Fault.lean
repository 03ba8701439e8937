import SubtreePartition.Datum.Written
import SubtreePartition.Text.Utf8

namespace SubtreePartition.Yaml

inductive Fault where
  | malformed
  | unknownTag (name : Text)
  | notUtf8 (defect : Utf8.Defect)
  | numeral (fault : Text.NumeralFault)
  | notReal (t : Text)
  | calendar (fault : CalendarFault)
  | noCharacter
  | tooLarge
  | unknownWord (t : Text)
  | emptyNumber
  | notADate
  | notAText
  | endless
  deriving DecidableEq, Repr

namespace Fault

def message : Fault → Text
  | .malformed => "not a document"
  | .unknownTag name =>
      Text.join ["could not determine a constructor for the tag ", Text.quoted name]
  | .notUtf8 defect => defect.message
  | .numeral fault => fault.message
  | .notReal t => Text.join ["could not convert string to float: ", Text.quoted t]
  | .calendar fault => fault.message
  | .noCharacter => "chr() arg not in range(0x110000)"
  | .tooLarge => "number too large"
  | .unknownWord t => Text.quoted t
  | .emptyNumber => "number without digits"
  | .notADate => "not a date"
  | .notAText => "a date must be a text"
  | .endless => "a text refers to itself"

end Fault

end SubtreePartition.Yaml
