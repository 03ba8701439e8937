import SubtreePartition.Yaml.Base64
import SubtreePartition.Yaml.Real
import SubtreePartition.Yaml.Tag
import SubtreePartition.Yaml.Timestamp

namespace SubtreePartition.Yaml

def dropLineEnd (t : Text) : Text :=
  if t.getLast? = some Text.lineFeed then t.dropLast else t

namespace Tag

def trueWords : List Text := ["yes", "true", "on"]

def falseWords : List Text := ["no", "false", "off"]

def isWord (words : List Text) (t : Text) : Bool :=
  words.contains (Text.lower t) &&
    (t.all Text.isLower || t.all Text.isUpper ||
      (Text.isUpper (t.headD 0) && t.tail.all Text.isLower))

def ofPlain (t : Text) : Tag :=
  let form := dropLineEnd t
  if t.isEmpty then .null
  else if isWord (trueWords ++ falseWords) form then .bool
  else if Real.isPlain form then .real
  else if Integer.isPlain form then .integer
  else if form = ("<<" : Text) then .merge
  else if form = ("~" : Text) ∨ isWord ["null"] form then .null
  else if Timestamp.isPlain form then .timestamp
  else if form = ("=" : Text) then .value
  else if (["!", "&", "*"] : List Text).contains form then .unknown (standardStem ++ "yaml")
  else .text

def bool? (t : Text) : Option Bool :=
  if trueWords.contains (Text.lower t) then some true
  else if falseWords.contains (Text.lower t) then some false
  else none

def scalar (tag : Tag) (t : Text) : Except Fault Scalar :=
  match tag with
  | .null => .ok .null
  | .bool => match bool? t with
      | some b => .ok (.bool b)
      | none => .error (.unknownWord t)
  | .integer => (Integer.value t).map .integer
  | .real => (Real.value t).map .real
  | .binary => match Base64.decode? t with
      | some bytes => .ok (.octets bytes)
      | none => .error .malformed
  | .timestamp => match Timestamp.ofText? (dropLineEnd t) with
      | some stamp => stamp.scalar
      | none => .error .notADate
  | .text => .ok (.text t)
  | _ => .error .malformed

end Tag

end SubtreePartition.Yaml
