import SubtreePartition.Json.Reader
import SubtreePartition.Record.Basic
import SubtreePartition.Text.Utf8

namespace SubtreePartition

inductive LineFault where
  | noSeparator
  | relativePath
  | attributes (fault : Json.Fault)
  | notAnObject
  deriving DecidableEq, Repr

namespace LineFault

def reason : LineFault → Text
  | .noSeparator => "no '|' separator"
  | .relativePath => "path is not absolute"
  | .attributes fault => Text.join ["invalid attributes: ", fault.message]
  | .notAnObject => "attributes are not an object"

end LineFault

/-- A refused line. An integer beyond the digit limit is refused as a number, not as a record. -/
inductive RecordFault where
  | malformed (line : Text) (fault : LineFault)
  | longInteger (digits : Nat)
  deriving DecidableEq, Repr

namespace RecordFault

def previewLimit : Nat := 80

def preview (line : Text) : Text :=
  if line.length ≤ previewLimit then line
  else line.take (previewLimit - 3) ++ ("..." : Text)

def message : RecordFault → Text
  | .malformed line fault =>
      Text.join ["Malformed record (", fault.reason, "): ", Text.quoted (preview line)]
  | .longInteger digits => (Text.NumeralFault.tooLong digits).message

end RecordFault

namespace Record

def separator : CodePoint := 124

def isLineEnd (b : UInt8) : Bool :=
  b = 10 || b = 13

/-- The text of a stored line, without the line end. -/
def decodeLine (raw : Bytes) : Text :=
  Utf8.decode (Text.dropRight isLineEnd raw)

def splitLine (line : Text) : Except RecordFault (Text × Text) :=
  match Text.cutAt separator line with
  | none => .error (.malformed line .noSeparator)
  | some (path, payload) =>
      if path.head? = some Text.slash then .ok (path, payload)
      else .error (.malformed line .relativePath)

def nameMark : Text := "nam:"

def categoryOf : Option Json.Value → Text
  | some (.text t) => if nameMark.isPrefixOf t then t.drop nameMark.length else t
  | _ => []

def defaultField : Text := "jcr:primaryType"

def read (field : Text) (line : Text) : Except RecordFault Record := do
  let (path, payload) ← splitLine line
  match Json.read payload with
  | .error (.longInteger digits) => .error (.longInteger digits)
  | .error fault => .error (.malformed line (.attributes fault))
  | .ok (.object members) =>
      .ok { path := path, category := categoryOf (Json.member? field members) }
  | .ok _ => .error (.malformed line .notAnObject)

def ofRaw (field : Text) (raw : Bytes) : Except RecordFault Record :=
  read field (decodeLine raw)

end Record

end SubtreePartition
