import SubtreePartition.Command.Arguments
import SubtreePartition.Command.Basic
import SubtreePartition.FileTree.Access
import SubtreePartition.Settings

namespace SubtreePartition.Command

def helpForm : OptionForm :=
  { parameter := .help, long := "--help", switch := some true }

def Arguments.asksHelp (a : Arguments) : Bool :=
  a.switch .help false

def splitForms : List OptionForm :=
  [{ parameter := .workDir, long := "--work-dir", short := some 119 },
    { parameter := .partitions, long := "--partitions", short := some 110 },
    { parameter := .minSize, long := "--min-size" },
    { parameter := .threshold, long := "--threshold" },
    { parameter := .compressed, long := "--compressed", switch := some true },
    { parameter := .compressed, long := "--plain", switch := some false },
    { parameter := .deleteSource, long := "--delete-original", switch := some true },
    { parameter := .hierarchy, long := "--hierarchy" },
    { parameter := .indexes, long := "--indexes" },
    { parameter := .lenient, long := "--lenient", switch := some true },
    { parameter := .verbose, long := "--verbose", short := some 118, switch := some true },
    helpForm]

def categoriesForms : List OptionForm :=
  [{ parameter := .hierarchy, long := "--hierarchy" },
    { parameter := .indexes, long := "--indexes" }, helpForm]

def isPath (files : FileTree) (t : Text) : Bool :=
  match files.get (.parse t) with
  | .ok _ => true
  | .error fault => fault.isSystem

def isSource (files : FileTree) (t : Text) : Bool :=
  match files.get (.parse t) with
  | .ok (.file _) => true
  | _ => false

def integer? (t : Text) : Option Int :=
  (Datum.integerOfText t).toOption

def isTextFor (files : FileTree) : Parameter → Text → Bool
  | .partitions, t | .minSize, t | .threshold, t => (integer? t).isSome
  | _, t => isPath files t

/-- Of a parameter given twice only the last text counts. -/
def optionsHold (files : FileTree) (a : Arguments) : Bool :=
  a.mentioned.all fun p => (a.text? p).all (isTextFor files p)

def splitRequest (source : Text) (a : Arguments) : SplitRequest :=
  let base : Settings := { workDir := .parse [] }
  { source := .parse source
    workDir := (a.text? .workDir).map .parse
    partitions := ((a.text? .partitions).bind integer?).getD base.partitionCount.value
    minSize := ((a.text? .minSize).bind integer?).getD base.minSplitSize
    threshold := (a.text? .threshold).bind integer?
    compressed := a.switch .compressed true
    deleteSource := a.switch .deleteSource false
    hierarchy := (a.text? .hierarchy).map .parse
    indexes := (a.text? .indexes).map .parse
    lenient := a.switch .lenient false
    verbose := a.switch .verbose false }

def parseSplit? (files : FileTree) (args : List Text) : Option Command :=
  match Arguments.read splitForms args with
  | some a =>
      if a.asksHelp then some .help
      else
        match a.operands with
        | [source] =>
            if optionsHold files a && isSource files source then
              some (.split (splitRequest source a))
            else none
        | _ => none
  | none => none

def parseCategories? (files : FileTree) (args : List Text) : Option Command :=
  match Arguments.read categoriesForms args with
  | some a =>
      if a.asksHelp then some .help
      else
        match a.text? .hierarchy, a.text? .indexes, a.operands with
        | some hierarchy, some indexes, [] =>
            if optionsHold files a then some (.categories (.parse hierarchy) (.parse indexes))
            else none
        | _, _, _ => none
  | none => none

def parseVersion? (args : List Text) : Option Command :=
  match Arguments.read [helpForm] args with
  | some a => if a.asksHelp then some .help else if a.operands.isEmpty then some .version else none
  | none => none

def parseNamed? (files : FileTree) : List Text → Option Command
  | [] => none
  | name :: args =>
      if name = ("split" : Text) then parseSplit? files args
      else if name = ("categories" : Text) then parseCategories? files args
      else if name = ("version" : Text) then parseVersion? args
      else none

def parse? (files : FileTree) : List Text → Option Command
  | [] => none
  | arg :: rest =>
      if arg = helpForm.long then some .help
      else if arg = Arguments.endOfOptions then parseNamed? files rest
      else parseNamed? files (arg :: rest)

end SubtreePartition.Command
