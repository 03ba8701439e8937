import SubtreePartition.Datum.Integer
import SubtreePartition.Text.Utf8

namespace SubtreePartition.Datum

open Checked

def text : Datum → Checked Text
  | .scalar (.text t) => .ok t
  | .scalar (.octets b) =>
      match Utf8.decodeStrict b with
      | .ok t => .ok t
      | .error _ => fail .notUnicode
  | _ => fail .notText

def readable (t : Text) : Checked Text :=
  if t.any Text.isSurrogate then fail .notUnicode else .ok t

def integer : Datum → Checked Int
  | .scalar (.integer n) => .ok n
  | .scalar (.bool b) => .ok (if b then 1 else 0)
  | .scalar (.real x) => integerOfReal x
  | .scalar (.text t) => (readable t).bind integerOfText
  | .scalar (.octets b) =>
      match Utf8.decodeStrict b with
      | .ok t => integerOfText t
      | .error _ => fail .integerSyntax
  | _ => fail .notInteger

def natural (d : Datum) : Checked Nat :=
  d.integer.bind fun n => if n < 0 then fail .tooSmall else .ok n.toNat

def trueWords : List Text := ["true", "t", "yes", "y", "on", "1"]

def falseWords : List Text := ["false", "f", "no", "n", "off", "0"]

def booleanOfText (t : Text) : Checked Bool :=
  if trueWords.contains (Text.lower t) then .ok true
  else if falseWords.contains (Text.lower t) then .ok false
  else fail .boolSyntax

def booleanOfInteger (n : Int) : Checked Bool :=
  if n = 0 then .ok false else if n = 1 then .ok true else fail .boolSyntax

def boolean : Datum → Checked Bool
  | .scalar (.bool b) => .ok b
  | .scalar (.integer n) => if fitsInt64 n then booleanOfInteger n else fail .notBool
  | .scalar (.real x) =>
      match integerOfReal x with
      | .ok n => booleanOfInteger n
      | .error _ => fail .notBool
  | .scalar (.text t) => (readable t).bind booleanOfText
  | .scalar (.octets b) =>
      match Utf8.decodeStrict b with
      | .ok t => booleanOfText t
      | .error _ => fail .boolSyntax
  | _ => fail .notBool

def optional {α : Type} (check : Datum → Checked α) : Datum → Checked (Option α)
  | .scalar .null => .ok none
  | d => (check d).map some

def listOf {α : Type} (check : Datum → Checked α) : Datum → Checked (List α)
  | .list items => all (items.zipIdx.map fun (d, i) => within (.index i) d (check d))
  | _ => fail .notList

def keyText (k : Scalar) : Checked Text :=
  let d : Datum := .scalar k
  within (.key k) d (within .badKey d d.text)

def put {α : Type} (m : Text × α) : List (Text × α) → List (Text × α)
  | [] => [m]
  | n :: rest => if n.1 = m.1 then m :: rest else n :: put m rest

/-- Every member; a bad key and a bad value behind it are both reported. Different keys may be the
same name, and then the last one counts. -/
def dictionaryOf {α : Type} (check : Datum → Checked α) : Datum → Checked (List (Text × α))
  | .mapping members =>
      let checked := members.map fun m => pair (keyText m.1) (within (.key m.1) m.2 (check m.2))
      (all checked).map fun ms => ms.foldl (fun done m => put m done) []
  | _ => fail .notMapping

abbrev Members := List (Scalar × Datum)

def model {α : Type} (check : Members → Checked α) : Datum → Checked α
  | .mapping members => check members
  | _ => fail .notModel

def required {α : Type} (name : Text) (check : Datum → Checked α) (members : Members) :
    Checked α :=
  match member? name members with
  | some d => within (.field name) d (check d)
  | none => within (.field name) (.mapping members) (fail .missing)

def withDefault {α : Type} (name : Text) (dflt : α) (check : Datum → Checked α)
    (members : Members) : Checked α :=
  match member? name members with
  | some d => within (.field name) d (check d)
  | none => .ok dflt

end SubtreePartition.Datum
