import SubtreePartition.Yaml.Cursor

namespace SubtreePartition.Yaml.Block

inductive Chomping where
  | clip
  | strip
  | keep
  deriving DecidableEq, Repr

structure Header where
  chomping : Chomping := .clip
  indentation : Option Nat := none
  deriving DecidableEq, Repr

def chomping? (c : CodePoint) : Option Chomping :=
  if c = 43 then some .keep else if c = 45 then some .strip else none

def indentation (c : Cursor) : Except Stop (Option Nat × Cursor) :=
  if !Text.isDigit c.peek then .ok (none, c)
  else if c.peek = 48 then c.refuse
  else .ok (some (c.peek - 48), c.next)

def header (c : Cursor) : Except Stop (Header × Cursor) := do
  let (h, c) ← match chomping? c.peek with
    | some chomping => do
        let (indentation, c) ← indentation c.next
        pure ({ chomping, indentation : Header }, c)
    | none => do
        let (indentation, c) ← indentation c
        match indentation, chomping? c.peek with
        | some _, some chomping => pure ({ chomping, indentation : Header }, c.next)
        | _, _ => pure ({ indentation }, c)
  if endsWord c.peek then return (h, ← c.finishLine) else c.refuse

def leading (done : Text) (widest : Nat) : Nat → Cursor → Text × Nat × Cursor
  | 0, c => (done, widest, c)
  | fuel + 1, c =>
      if isSpace c.peek then leading done (max widest c.next.column) fuel c.next
      else if isBreak c.peek then leading (done ++ c.lineBreak.1) widest fuel c.lineBreak.2
      else (done, widest, c)

def skipIndent (indent : Nat) (c : Cursor) : Cursor :=
  c.skip (min (indent - c.column) (c.rest.takeWhile isSpace).length)

def emptyLines (indent : Nat) (done : Text) : Nat → Cursor → Text × Cursor
  | 0, c => (done, c)
  | fuel + 1, c =>
      let c := skipIndent indent c
      if isBreak c.peek then emptyLines indent (done ++ c.lineBreak.1) fuel c.lineBreak.2
      else (done, c)

def isInside (indent : Nat) (c : Cursor) : Bool :=
  c.column == indent && c.peek != 0

def joint (folded : Bool) (startsBlank : Bool) (lineEnd empty : Text) (c : Cursor) : Text :=
  if folded && lineEnd = [Text.lineFeed] && !startsBlank && !isSpaceOrTab c.peek then
    if empty.isEmpty then [32] else []
  else lineEnd

def linesFrom (folded : Bool) (chomping : Chomping) (indent : Nat) (done empty : Text) :
    Nat → Cursor → Text × Cursor
  | 0, c => (done.reverse, c)
  | fuel + 1, c =>
      let startsBlank := isSpaceOrTab c.peek
      let (line, c) := c.span fun ch => !endsLine ch
      let (lineEnd, c) := c.lineBreak
      let done := line.reverse ++ (empty.reverse ++ done)
      let (empty, c) := emptyLines indent [] (fuel + 1) c
      if isInside indent c then
        let between := joint folded startsBlank lineEnd empty c
        linesFrom folded chomping indent (between.reverse ++ done) empty fuel c
      else
        let last := match chomping with
          | .strip => []
          | .clip => lineEnd
          | .keep => lineEnd ++ empty
        ((last.reverse ++ done).reverse, c)

def scalar (outer : Int) (c : Cursor) : Except Stop (Text × Cursor) := do
  let folded := c.peek = 62
  let (h, c) ← header c.next
  let least := max 1 (outer + 1).toNat
  let fuel := c.left + 1
  let (empty, indent, c) :=
    match h.indentation with
    | none =>
        let (empty, widest, c) := leading [] 0 fuel c
        (empty, max least widest, c)
    | some n =>
        let indent := least + n - 1
        let (empty, c) := emptyLines indent [] fuel c
        (empty, indent, c)
  if isInside indent c then .ok (linesFrom folded h.chomping indent [] empty fuel c)
  else .ok (if h.chomping = .keep then empty else [], c)

end SubtreePartition.Yaml.Block
