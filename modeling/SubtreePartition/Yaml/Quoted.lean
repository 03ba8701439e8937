import SubtreePartition.Text.Decimal
import SubtreePartition.Yaml.Cursor

namespace SubtreePartition.Yaml.Quoted

def shortEscape : CodePoint → Option CodePoint
  | 48 => some 0
  | 97 => some 7
  | 98 => some 8
  | 116 => some 9
  | 9 => some 9
  | 110 => some 10
  | 118 => some 11
  | 102 => some 12
  | 114 => some 13
  | 101 => some 27
  | 32 => some 32
  | 34 => some 34
  | 92 => some 92
  | 47 => some 47
  | 78 => some 0x85
  | 95 => some 0xA0
  | 76 => some 0x2028
  | 80 => some 0x2029
  | _ => none

def longEscape : CodePoint → Option Nat
  | 120 => some 2
  | 117 => some 4
  | 85 => some 8
  | _ => none

def character (n : Nat) : Except Fault CodePoint :=
  if n ≤ 0x10FFFF then .ok n
  else if n < 0x80000000 then .error .noCharacter
  else .error .tooLarge

def emptyLines (done : Text) : Nat → Cursor → Except Stop (Text × Cursor)
  | 0, c => c.refuse
  | fuel + 1, c =>
      if c.isSeparator then c.refuse
      else
        let c := c.skipWhile isSpaceOrTab
        if isBreak c.peek then
          let (t, c) := c.lineBreak
          emptyLines (done ++ t) fuel c
        else .ok (done, c)

def blanks (fuel : Nat) (c : Cursor) : Except Stop (Text × Cursor) :=
  let (run, c) := c.span isSpaceOrTab
  if c.peek = 0 then c.refuse
  else if isBreak c.peek then do
    let (t, c) := c.lineBreak
    let (more, c) ← emptyLines [] fuel c
    .ok (if t ≠ [Text.lineFeed] then t ++ more else if more.isEmpty then [32] else more, c)
  else .ok (run, c)

def escape (fuel : Nat) (c : Cursor) : Except Stop (Text × Cursor) :=
  match shortEscape c.peek, longEscape c.peek with
  | some ch, _ => .ok ([ch], c.next)
  | none, some width =>
      let c := c.next
      let digits := (c.rest.take width).takeWhile fun ch => (Text.hexValue ch).isSome
      if digits.length < width then (c.skip digits.length).refuse
      else
        match character ((Text.digitsValue 16 digits).getD 0) with
        | .ok ch => .ok ([ch], c.skip width)
        | .error fault => c.stop fault
  | none, none =>
      if isBreak c.peek then emptyLines [] fuel c.lineBreak.2 else c.refuse

def scalarFrom (quote : CodePoint) (done : Text) : Nat → Cursor → Except Stop (Text × Cursor)
  | 0, c => c.refuse
  | fuel + 1, c =>
      if c.peek = quote then
        if quote = 39 ∧ c.peekAt 1 = 39 then scalarFrom quote (39 :: done) fuel (c.skip 2)
        else .ok (done.reverse, c.next)
      else if isGap c.peek then
        match blanks fuel c with
        | .ok (t, c) => scalarFrom quote (t.reverse ++ done) fuel c
        | .error fault => .error fault
      else if quote = 34 ∧ c.peek = 92 then
        match escape fuel c.next with
        | .ok (t, c) => scalarFrom quote (t.reverse ++ done) fuel c
        | .error fault => .error fault
      else scalarFrom quote (c.peek :: done) fuel c.next

def scalar (c : Cursor) : Except Stop (Text × Cursor) :=
  scalarFrom c.peek [] (c.left + 1) c.next

end SubtreePartition.Yaml.Quoted
