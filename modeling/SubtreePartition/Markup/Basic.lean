import SubtreePartition.Markup.Literal.Basic
import SubtreePartition.Markup.Look
import SubtreePartition.Markup.Pictograph
import SubtreePartition.Markup.Piece
import SubtreePartition.Text.Word

namespace SubtreePartition.Markup

inductive Fault where
  | notOpen
  | parameters
  | number (fault : Text.NumeralFault)
  deriving DecidableEq, Repr

structure OpenMark where
  name : Text
  parameters : Option Text
  start : Nat
  deriving DecidableEq, Repr

namespace OpenMark

def isHandler (m : OpenMark) : Bool :=
  m.name.head? = some 64

def look (m : OpenMark) : Text :=
  match m.parameters with
  | some t => m.name ++ (32 :: t)
  | none => m.name

end OpenMark

structure Span where
  start : Nat
  stop : Nat
  look : Text
  deriving DecidableEq, Repr

def argument? (t : Text) : Option Text :=
  let rest := t.dropWhile fun c => c = 46 || Text.isWordPart c
  if rest.isEmpty then none
  else if rest.head? = some 40 && rest.tail.getLast? = some 41 && !rest.contains Text.lineFeed then
    some rest
  else some t

def isCallable (parameters : Option Text) : Bool :=
  (argument? (Text.trim Text.isSpace (parameters.getD []))).all Literal.isWritten

def isControl (c : CodePoint) : Bool :=
  c == 7 || c == 8 || c == 11 || c == 12 || c == 13

def shownText (ps : Pictographs) (t : Text) : Text :=
  (ps.showIn t).filter fun c => !isControl c

structure Reading where
  shown : List Text := []
  length : Nat := 0
  marks : List OpenMark := []
  spans : List Span := []
  deriving DecidableEq, Repr

namespace Reading

def addText (r : Reading) (t : Text) : Reading :=
  { r with shown := t :: r.shown, length := r.length + t.length }

def openMark (r : Reading) (name : Text) (parameters : Option Text) : Reading :=
  { r with marks := ⟨name, parameters, r.length⟩ :: r.marks }

def addSpan (r : Reading) (m : OpenMark) : Reading :=
  { r with spans := ⟨m.start, r.length, m.look⟩ :: r.spans }

def close (r : Reading) (m : OpenMark) : Except Fault Reading :=
  let r := { r with marks := r.marks.erase m }
  if !m.isHandler then .ok (r.addSpan m)
  else if isCallable m.parameters then .ok r
  else .error .parameters

def closeNamed (r : Reading) (name : Text) : Except Fault Reading :=
  match r.marks.find? fun m => m.name = name with
  | some m => r.close m
  | none => .error .notOpen

def closeLast (r : Reading) : Except Fault Reading :=
  match r.marks with
  | m :: _ => r.close m
  | [] => .error .notOpen

def addMark (r : Reading) (inside : Text) : Except Fault Reading :=
  let (front, parameters) : Text × Option Text :=
    match Text.cutAt 61 inside with
    | some (front, t) => (front, some t)
    | none => (inside, none)
  match front with
  | 47 :: closed =>
      let closed := Text.trim Text.isSpace closed
      if closed.isEmpty then r.closeLast
      else (name closed).mapError .number |>.bind r.closeNamed
  | _ => ((name front).mapError .number).map fun n => r.openMark n parameters

def addPiece (ps : Pictographs) (r : Reading) : Piece → Except Fault Reading
  | .text t => .ok (r.addText (shownText ps t))
  | .mark inside => r.addMark inside

def closeAll (r : Reading) : Reading :=
  r.marks.foldl addSpan r

def text (r : Reading) : Text :=
  r.shown.reverse.flatten

end Reading

def Span.counts (s : Span) (t : Text) : Bool :=
  !(t.contains Text.lineFeed || t.contains 9) ||
    ((t.take s.stop).drop s.start).any (· ≠ Text.lineFeed)

def Span.fault? (s : Span) : Option Fault :=
  match Look.ofText s.look with
  | .error (.number fault) => some (.number fault)
  | _ => none

def plain (ps : Pictographs) (t : Text) : Except Fault Text := do
  let r ← (pieces t).foldlM (Reading.addPiece ps) {}
  let shown := r.text
  match (r.closeAll.spans.filter (·.counts shown)).findSome? Span.fault? with
  | some fault => throw fault
  | none => return shown

end SubtreePartition.Markup
