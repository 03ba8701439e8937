import SubtreePartition.Yaml.Cursor

namespace SubtreePartition.Yaml.Plain

def isFlowIndicator (c : CodePoint) : Bool :=
  c == 44 || c == 91 || c == 93 || c == 123 || c == 125

def indicators : Text := "-?:,[]\x7b\x7d#&*!|>'\"%@\x60"

def starts (flow : Bool) (c : Cursor) : Bool :=
  let ch := c.peek
  (!isGap ch && !indicators.contains ch) ||
    (!isGap (c.peekAt 1) && (ch == 45 || (!flow && (ch == 63 || ch == 58))))

def endsBefore (flow : Bool) (c after : CodePoint) : Bool :=
  isGap c || (c == 58 && (isGap after || (flow && isFlowIndicator after))) ||
    (flow && (c == 63 || isFlowIndicator c))

def wordLengthFrom (flow : Bool) (n : Nat) : Text → Nat
  | [] => n
  | c :: rest => if endsBefore flow c (rest.headD 0) then n else wordLengthFrom flow (n + 1) rest

def wordLength (flow : Bool) (t : Text) : Nat :=
  wordLengthFrom flow 0 t

def emptyLines (done : Text) : Nat → Cursor → Option Text × Cursor
  | 0, c => (none, c)
  | fuel + 1, c =>
      if isSpace c.peek then emptyLines done fuel c.next
      else if isBreak c.peek then
        let (t, c) := c.lineBreak
        if c.isSeparator then (none, c) else emptyLines (done ++ t) fuel c
      else (some done, c)

structure Gap where
  text : Text
  crossesLine : Bool
  after : Cursor
  deriving DecidableEq, Repr

def gap (c : Cursor) : Gap :=
  let (run, c) := c.span isSpace
  if isBreak c.peek then
    let (t, c) := c.lineBreak
    if c.isSeparator then ⟨[], true, c⟩
    else
      match emptyLines [] (c.left + 1) c with
      | (none, c) => ⟨[], true, c⟩
      | (some more, c) =>
          ⟨if t ≠ [Text.lineFeed] then t ++ more else if more.isEmpty then [32] else more, true, c⟩
  else ⟨run, false, c⟩

structure Scalar where
  text : Text
  crossesLine : Bool
  after : Cursor
  deriving DecidableEq, Repr

def scalarFrom (flow : Bool) (indent : Int) (done : Text) (before : Gap) : Nat → Scalar
  | 0 => ⟨done.reverse, before.crossesLine, before.after⟩
  | fuel + 1 =>
      let c := before.after
      let n := wordLength flow c.rest
      if c.peek = 35 ∨ n = 0 then ⟨done.reverse, before.crossesLine, c⟩
      else
        let done := (c.rest.take n).reverse ++ (before.text.reverse ++ done)
        let after := gap (c.skip n)
        if after.text.isEmpty || (!flow && (after.after.column : Int) < indent) then
          ⟨done.reverse, after.crossesLine, after.after⟩
        else scalarFrom flow indent done after fuel

def scalar (flow : Bool) (indent : Int) (c : Cursor) : Scalar :=
  scalarFrom flow indent [] ⟨[], false, c⟩ (c.left + 1)

end SubtreePartition.Yaml.Plain
