import SubtreePartition.Category.Check
import SubtreePartition.Library
import SubtreePartition.Markup.Basic
import SubtreePartition.Yaml.Document

namespace SubtreePartition

namespace Yaml.Fault

def errorKind : Fault → ErrorKind
  | .malformed | .unknownTag _ => .document
  | .notAText => .mismatch
  | .notUtf8 _ | .numeral _ | .notReal _ | .calendar _ | .noCharacter => .value
  | _ => .other

end Yaml.Fault

inductive BundledFault where
  | notYaml (fault : Yaml.Fault)
  | invalid (name : Text) (issues : List Issue)
  | markup (fault : Markup.Fault)
  deriving DecidableEq, Repr

namespace BundledFault

def errorKind : BundledFault → ErrorKind
  | .notYaml fault => fault.errorKind
  | .invalid _ _ => .validation
  | .markup (.number _) => .value
  | .markup _ => .other

def message : BundledFault → Text
  | .notYaml fault => fault.message
  | .invalid name issues => Issue.message issues name
  | .markup .notOpen => "a mark is closed that is not open"
  | .markup .parameters => "a handler has no value for parameters"
  | .markup (.number fault) => fault.message

end BundledFault

namespace Library

def documentDepth : Nat := 6

def membersOf (fields : List (Text × Datum)) : Datum.Members :=
  fields.map fun f => (.text f.1, f.2)

def bundled : Library where
  Error := BundledFault
  Value := Datum
  kind := BundledFault.errorKind
  message := BundledFault.message
  safeLoad content := (Yaml.read documentDepth (.ofOctets content)).mapError .notYaml
  isVoid := Datum.isVoid
  members?
    | .mapping members => some (members.map fun m => (.scalar m.1, m.2))
    | _ => none
  items?
    | .list items => some items
    | _ => none
  name?
    | .scalar (.text t) => some t
    | _ => none
  text? d := d.text.toOption
  truth? d := d.boolean.toOption
  hierarchy fields :=
    (Declarations.check (membersOf fields)).mapError (.invalid "HierarchyDocument")
  indexes fields :=
    (IndexDefinition.checkAll (membersOf fields)).mapError (.invalid "IndexDocument")

end Library

end SubtreePartition
