import SubtreePartition.Text.Decimal

namespace SubtreePartition

/-- A path in normal form: without empty parts and without parts that mean the same directory. A
path that starts with exactly two slashes is kept apart from one with a single slash. -/
structure FilePath where
  slashes : Nat
  parts : List Text
  deriving DecidableEq, Repr

namespace FilePath

def leadingSlashes (t : Text) : Nat :=
  match (t.takeWhile (· = Text.slash)).length with
  | 0 => 0
  | 2 => 2
  | _ => 1

def isProper (part : Text) : Bool :=
  part ≠ [] && part ≠ ("." : Text)

def parse (t : Text) : FilePath :=
  { slashes := leadingSlashes t
    parts := (Text.pieces Text.slash t).filter isProper }

def isAbsolute (p : FilePath) : Bool :=
  p.slashes ≠ 0

def text (p : FilePath) : Text :=
  match p.slashes, p.parts with
  | 0, [] => "."
  | n, parts => List.replicate n Text.slash ++ Text.intercalate [Text.slash] parts

def name (p : FilePath) : Text :=
  p.parts.getLast?.getD []

def parent (p : FilePath) : FilePath :=
  { p with parts := p.parts.dropLast }

def child (p : FilePath) (part : Text) : FilePath :=
  { p with parts := p.parts ++ [part] }

def join (p q : FilePath) : FilePath :=
  if q.isAbsolute then q else { p with parts := p.parts ++ q.parts }

def partitionName (index : Int) (sourceName : Text) : Text :=
  Text.join ["split-", Text.ofInt index, "-", sourceName]

def partition (workDir : FilePath) (index : Int) (source : FilePath) : FilePath :=
  workDir.child (partitionName index source.name)

end FilePath

end SubtreePartition
