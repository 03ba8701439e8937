import SubtreePartition.Text.Basic

namespace SubtreePartition.Command

inductive Parameter where
  | workDir
  | partitions
  | minSize
  | threshold
  | compressed
  | deleteSource
  | hierarchy
  | indexes
  | lenient
  | verbose
  | help
  deriving DecidableEq, Repr

structure OptionForm where
  parameter : Parameter
  long : Text
  short : Option CodePoint := none
  switch : Option Bool := none
  deriving DecidableEq, Repr

inductive Given where
  | switch (b : Bool)
  | text (t : Text)
  deriving DecidableEq, Repr

structure Arguments where
  options : List (Parameter × Given) := []
  operands : List Text := []
  deriving DecidableEq, Repr

namespace Arguments

def give (a : Arguments) (p : Parameter) (g : Given) : Arguments :=
  { a with options := a.options ++ [(p, g)] }

def addOperands (a : Arguments) (ts : List Text) : Arguments :=
  { a with operands := a.operands ++ ts }

def dash : CodePoint := 45

def endOfOptions : Text := [dash, dash]

def isOption (arg : Text) : Bool :=
  arg.head? = some dash && 1 < arg.length

def cluster (forms : List OptionForm) (a : Arguments) :
    Text → Option (Arguments × Option Parameter)
  | [] => some (a, none)
  | c :: rest =>
      match forms.find? fun f => f.short = some c with
      | none => none
      | some f =>
          match f.switch with
          | some b => cluster forms (a.give f.parameter (.switch b)) rest
          | none =>
              if rest.isEmpty then some (a, some f.parameter)
              else some (a.give f.parameter (.text rest), none)

def long (f : OptionForm) (attached : Option Text) (a : Arguments) :
    Option (Arguments × Option Parameter) :=
  match f.switch, attached with
  | some b, none => some (a.give f.parameter (.switch b), none)
  | some _, some _ => none
  | none, some t => some (a.give f.parameter (.text t), none)
  | none, none => some (a, some f.parameter)

def option (forms : List OptionForm) (a : Arguments) (arg : Text) :
    Option (Arguments × Option Parameter) :=
  let (name, attached) : Text × Option Text :=
    match Text.cutAt 61 arg with
    | some (name, t) => (name, some t)
    | none => (arg, none)
  match forms.find? fun f => f.long = name with
  | some f => long f attached a
  | none => if endOfOptions.isPrefixOf arg then none else cluster forms a arg.tail

def readFrom (forms : List OptionForm) (a : Arguments) :
    Option Parameter → List Text → Option Arguments
  | none, [] => some a
  | some _, [] => none
  | some p, t :: rest => readFrom forms (a.give p (.text t)) none rest
  | none, arg :: rest =>
      if arg = endOfOptions then some (a.addOperands rest)
      else if isOption arg then
        match option forms a arg with
        | none => none
        | some (a, waiting) => readFrom forms a waiting rest
      else readFrom forms (a.addOperands [arg]) none rest

def read (forms : List OptionForm) (args : List Text) : Option Arguments :=
  readFrom forms {} none args

def given? (a : Arguments) (p : Parameter) : Option Given :=
  (a.options.reverse.find? fun o => o.1 = p).map Prod.snd

def text? (a : Arguments) (p : Parameter) : Option Text :=
  match a.given? p with
  | some (.text t) => some t
  | _ => none

def switch (a : Arguments) (p : Parameter) (dflt : Bool) : Bool :=
  match a.given? p with
  | some (.switch b) => b
  | _ => dflt

def mentioned (a : Arguments) : List Parameter :=
  (a.options.map Prod.fst).eraseDups

end Arguments

end SubtreePartition.Command
