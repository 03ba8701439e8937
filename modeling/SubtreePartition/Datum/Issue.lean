import SubtreePartition.Datum.Written

namespace SubtreePartition

inductive IssueKind where
  | missing
  | notText
  | notUnicode
  | notInteger
  | integerSyntax
  | integerTooLong
  | fractional
  | notFinite
  | tooSmall
  | notBool
  | boolSyntax
  | notPath
  | notInSet
  | notList
  | notMapping
  | notModel
  | frozen
  deriving DecidableEq, Repr

namespace IssueKind

def code : IssueKind → Text
  | .missing => "missing"
  | .notText => "string_type"
  | .notUnicode => "string_unicode"
  | .notInteger => "int_type"
  | .integerSyntax => "int_parsing"
  | .integerTooLong => "int_parsing_size"
  | .fractional => "int_from_float"
  | .notFinite => "finite_number"
  | .tooSmall => "greater_than_equal"
  | .notBool => "bool_type"
  | .boolSyntax => "bool_parsing"
  | .notPath => "path_type"
  | .notInSet => "enum"
  | .notList => "list_type"
  | .notMapping => "dict_type"
  | .notModel => "model_type"
  | .frozen => "frozen_instance"

def message : IssueKind → Text
  | .missing => "a value is required"
  | .notText => "the value should be a text"
  | .notUnicode => "the octets are no text"
  | .notInteger => "the value should be a whole number"
  | .integerSyntax => "the text is no whole number"
  | .integerTooLong => "the number is too long to be read"
  | .fractional => "the number has a fraction"
  | .notFinite => "the number is not finite"
  | .tooSmall => "the number is too small"
  | .notBool => "the value should be a truth value"
  | .boolSyntax => "the value stands for no truth value"
  | .notPath => "the value should be a path"
  | .notInSet => "the value is none of those allowed"
  | .notList => "the value should be a list"
  | .notMapping => "the value should be a mapping"
  | .notModel => "the value should be a mapping of fields"
  | .frozen => "the value does not change any more"

end IssueKind

inductive Step where
  | field (name : Text)
  | index (i : Nat)
  | key (k : Scalar)
  | badKey
  deriving DecidableEq, Repr

namespace Step

def text : Step → Text
  | .field name => name
  | .index i => Text.ofNat i
  | .key k => k.place
  | .badKey => "[key]"

end Step

structure Issue where
  location : List Step
  kind : IssueKind
  found : Text := []
  deriving DecidableEq, Repr

namespace Issue

def within (step : Step) (d : Datum) (i : Issue) : Issue :=
  { i with
    location := step :: i.location
    found := if i.found.isEmpty then d.excerpt else i.found }

def steps : List Step → List Text
  | [] => []
  | .key _ :: .badKey :: rest => Step.text .badKey :: steps rest
  | s :: rest => s.text :: steps rest

def place (i : Issue) : Text :=
  Text.intercalate "." (steps i.location)

def report (i : Issue) : Text :=
  Text.join [Text.intercalate "." (i.location.map Step.text), "\n  ", i.kind.message,
    " [type=", i.kind.code, ", input_value=", i.found, "]"]

def summary (issues : List Issue) (name : Text) : Text :=
  Text.join [Text.ofNat issues.length,
    if issues.length = 1 then " validation error for " else " validation errors for ", name]

def message (issues : List Issue) (name : Text) : Text :=
  Text.intercalate "\n" (summary issues name :: issues.map report)

end Issue

abbrev Checked (α : Type) := Except (List Issue) α

namespace Checked

variable {α β : Type}

def fail (kind : IssueKind) : Checked α :=
  .error [{ location := [], kind }]

def within (step : Step) (d : Datum) : Checked α → Checked α
  | .ok a => .ok a
  | .error issues => .error (issues.map (·.within step d))

def apply : Checked (α → β) → Checked α → Checked β
  | .ok f, .ok a => .ok (f a)
  | .ok _, .error ys => .error ys
  | .error xs, .ok _ => .error xs
  | .error xs, .error ys => .error (xs ++ ys)

def pair (a : Checked α) (b : Checked β) : Checked (α × β) :=
  apply (apply (.ok Prod.mk) a) b

def all (cs : List (Checked α)) : Checked (List α) :=
  cs.foldr (fun c rest => apply (apply (.ok List.cons) c) rest) (.ok [])

end Checked

end SubtreePartition
