import SubtreePartition.Yaml.Fault

namespace SubtreePartition.Yaml

def byteOrderMark : CodePoint := 0xFEFF

def isBreak (c : CodePoint) : Bool :=
  c == 10 || c == 0x85 || c == 0x2028 || c == 0x2029

def endsLine (c : CodePoint) : Bool :=
  c == 0 || isBreak c

def endsWord (c : CodePoint) : Bool :=
  c == 32 || endsLine c

def isGap (c : CodePoint) : Bool :=
  c == 9 || endsWord c

def isSpace (c : CodePoint) : Bool :=
  c == 32

def isSpaceOrTab (c : CodePoint) : Bool :=
  c == 32 || c == 9

def isNameCharacter (c : CodePoint) : Bool :=
  Text.isDigit c || Text.isLetter c || c == 45 || c == 95

structure Cursor where
  rest : Text
  left : Nat := rest.length
  left_eq : left = rest.length := by rfl
  index : Nat := 0
  line : Nat := 0
  column : Nat := 0
  deriving DecidableEq, Repr

structure Stop where
  fault : Fault
  atEnd : Bool
  deriving DecidableEq, Repr

namespace Cursor

def isAtEnd (c : Cursor) : Bool :=
  c.left = 0

def stop {α : Type} (c : Cursor) (fault : Fault) : Except Stop α :=
  .error ⟨fault, c.isAtEnd⟩

def refuse {α : Type} (c : Cursor) : Except Stop α :=
  c.stop .malformed

def peek (c : Cursor) : CodePoint :=
  c.rest.headD 0

def peekAt (c : Cursor) (n : Nat) : CodePoint :=
  c.rest.getD n 0

def next (c : Cursor) : Cursor :=
  match h : c.rest with
  | [] => c
  | ch :: rest =>
      have left_eq : c.left - 1 = rest.length := by simp [c.left_eq, h]
      if isBreak ch then
        { rest, left := c.left - 1, left_eq, index := c.index + 1, line := c.line + 1, column := 0 }
      else
        { rest
          left := c.left - 1
          left_eq
          index := c.index + 1
          line := c.line
          column := if ch = byteOrderMark then c.column else c.column + 1 }

def skip : Nat → Cursor → Cursor
  | 0, c => c
  | n + 1, c => skip n c.next

def span (p : CodePoint → Bool) (c : Cursor) : Text × Cursor :=
  let run := c.rest.takeWhile p
  (run, c.skip run.length)

def skipWhile (p : CodePoint → Bool) (c : Cursor) : Cursor :=
  (c.span p).2

def lineBreak (c : Cursor) : Text × Cursor :=
  if isBreak c.peek then
    (if c.peek = 0x2028 ∨ c.peek = 0x2029 then [c.peek] else [Text.lineFeed], c.next)
  else ([], c)

def skipComment (c : Cursor) : Cursor :=
  let c := c.skipWhile isSpace
  if c.peek = 35 then c.skipWhile fun ch => !endsLine ch else c

def finishLine (c : Cursor) : Except Stop Cursor :=
  let c := c.skipComment
  if endsLine c.peek then .ok c.lineBreak.2 else c.refuse

def startsWith (c : Cursor) (t : Text) : Bool :=
  t.isPrefixOf c.rest

def isSeparator (c : Cursor) : Bool :=
  (c.startsWith "---" || c.startsWith "...") && isGap (c.peekAt 3)

end Cursor

end SubtreePartition.Yaml
