import SubtreePartition.Number.Binary64
import SubtreePartition.Text.LineEnd
import SubtreePartition.Text.Utf8

namespace SubtreePartition

/-- Octets that are turned into text chunk by chunk. A character that a chunk ends in, and a
carriage return at its end, are kept until the next one. -/
structure Feed where
  octets : Bytes
  begun : Bytes := []
  afterReturn : Bool := false
  ready : Text := []
  lastChunk : Nat × Nat := (0, 0)
  deriving DecidableEq, Repr

namespace Feed

def leastChunk : Nat := 8192

def chunkSize (f : Feed) (want : Nat) : Nat :=
  let (octets, characters) := f.lastChunk
  if characters < octets && characters ≠ 0 then
    match (Binary64.ofRatio false octets characters).mul (.ofNat want) with
    | .finite _ units => max leastChunk (units / Binary64.one)
    | _ => max leastChunk want
  else max leastChunk want

def addText (f : Feed) (t : Text) : Feed :=
  let t := if f.afterReturn && !t.isEmpty then Text.carriageReturn :: t else t
  let waits := t.getLast? = some Text.carriageReturn
  let t := if waits then t.dropLast else t
  { f with
    afterReturn := waits || (f.afterReturn && t.isEmpty)
    ready := f.ready ++ Text.unifyLineEnds t }

def readChunk (f : Feed) (want : Nat) : Except Utf8.Defect (Feed × Bool) :=
  let size := f.chunkSize want
  let chunk := f.octets.take size
  if chunk.isEmpty then
    match f.begun with
    | a :: rest => .error (Utf8.defectAt 0 a rest)
    | [] =>
        let last : Text := if f.afterReturn then [Text.lineFeed] else []
        .ok ({ f with afterReturn := false, ready := f.ready ++ last }, f.afterReturn)
  else
    match Utf8.decodePart (f.begun ++ chunk) with
    | .error defect => .error defect
    | .ok (t, begun) =>
        let fed := { f with octets := f.octets.drop size, begun }.addText t
        let count := fed.ready.length - f.ready.length
        .ok ({ fed with lastChunk := (chunk.length, count) }, true)

def fill (want : Nat) : Nat → Feed → Except Utf8.Defect Feed
  | 0, f => .ok f
  | fuel + 1, f =>
      if want ≤ f.ready.length then .ok f
      else
        match f.readChunk (want - f.ready.length) with
        | .error defect => .error defect
        | .ok (f, true) => fill want fuel f
        | .ok (f, false) => .ok f

def take (want : Nat) (f : Feed) : Except Utf8.Defect (Text × Feed) :=
  match f.fill want (f.octets.length + 2) with
  | .error defect => .error defect
  | .ok f => .ok (f.ready.take want, { f with ready := f.ready.drop want })

def blocksFrom (size : Nat) (done : List Text) : Nat → Feed → List Text × Option Utf8.Defect
  | 0, _ => (done.reverse, none)
  | fuel + 1, f =>
      match f.take size with
      | .error defect => (done.reverse, some defect)
      | .ok (t, f) =>
          if t.isEmpty then (done.reverse, none) else blocksFrom size (t :: done) fuel f

def blocks (size : Nat) (f : Feed) : List Text × Option Utf8.Defect :=
  blocksFrom size [] (f.ready.length + f.octets.length + 2) f

end Feed

end SubtreePartition
