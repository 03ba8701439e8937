import SubtreePartition.Yaml.Block
import SubtreePartition.Yaml.Plain
import SubtreePartition.Yaml.Property
import SubtreePartition.Yaml.Quoted
import SubtreePartition.Yaml.Source

namespace SubtreePartition.Yaml

/-- A token that turns out to start a key if a colon follows it soon enough. -/
structure PossibleKey where
  token : Nat
  required : Bool
  index : Nat
  line : Nat
  column : Nat
  deriving DecidableEq, Repr

namespace PossibleKey

def longest : Nat := 1024

def isStale (c : Cursor) (k : PossibleKey) : Bool :=
  k.line ≠ c.line || longest < c.index - k.index

end PossibleKey

inductive Mark where
  | none
  | startsKey
  | startsMapping
  deriving DecidableEq, Repr

namespace Mark

def tokens : Mark → Token → List Token
  | .none, t => [t]
  | .startsKey, t => [.key, t]
  | .startsMapping, t => [.mappingStart, .key, t]

end Mark

/-- A text read up to the cursor. `key` is the possible key at the present depth of brackets, and
`outerKeys` are those outside of each bracket that is open. -/
structure Lexer where
  cursor : Cursor
  tokens : Array (Mark × Token) := #[]
  key : Option PossibleKey := none
  outerKeys : List (Option PossibleKey) := []
  indent : Int := -1
  outerIndents : List Int := []
  keyAllowed : Bool := true
  deriving Repr

namespace Lexer

def inFlow (l : Lexer) : Bool :=
  !l.outerKeys.isEmpty

def emit (l : Lexer) (t : Token) : Lexer :=
  { l with tokens := l.tokens.push (.none, t) }

def keys (l : Lexer) : List PossibleKey :=
  (l.key :: l.outerKeys).filterMap id

def settled (l : Lexer) : List Token :=
  let pending := (l.keys.filter fun k => !k.isStale l.cursor).map PossibleKey.token
  let marked := l.tokens.toList.take (pending.foldl min l.tokens.size)
  marked.flatMap fun m => m.1.tokens m.2

def dropStaleKey (c : Cursor) : Option PossibleKey → Except Stop (Option PossibleKey)
  | none => .ok none
  | some k =>
      if !k.isStale c then .ok (some k)
      else if k.required then c.refuse
      else .ok none

def dropStale (l : Lexer) : Except Stop Lexer := do
  let key ← dropStaleKey l.cursor l.key
  let outerKeys ← l.outerKeys.mapM (dropStaleKey l.cursor)
  return { l with key, outerKeys }

def dropKey (l : Lexer) : Except Stop Lexer :=
  match l.key with
  | some k => if k.required then l.cursor.refuse else .ok { l with key := none }
  | none => .ok l

def noteKey (l : Lexer) : Except Stop Lexer :=
  if !l.keyAllowed then .ok l
  else do
    let c := l.cursor
    let l ← l.dropKey
    let required := !l.inFlow && l.indent = (c.column : Int)
    return { l with
      key := some { token := l.tokens.size, required, index := c.index, line := c.line
                    column := c.column } }

def closeTo (column : Int) (l : Lexer) : List Int → Lexer
  | [] => l
  | outer :: rest =>
      if column < l.indent then
        closeTo column { l.emit .blockEnd with indent := outer, outerIndents := rest } rest
      else l

def close (column : Int) (l : Lexer) : Lexer :=
  if l.inFlow then l else closeTo column l l.outerIndents

def opensAt (column : Nat) (l : Lexer) : Bool :=
  !l.inFlow && l.indent < column

def indentTo (column : Nat) (l : Lexer) : Lexer :=
  { l with indent := column, outerIndents := l.indent :: l.outerIndents }

def openBlock (t : Token) (l : Lexer) : Lexer :=
  if l.opensAt l.cursor.column then (l.indentTo l.cursor.column).emit t else l

def skip (n : Nat) (l : Lexer) : Lexer :=
  { l with cursor := l.cursor.skip n }

def skipGap : Nat → Lexer → Lexer
  | 0, l => l
  | fuel + 1, l =>
      let l := { l with cursor := l.cursor.skipComment }
      if isBreak l.cursor.peek then
        skipGap fuel { l with
          cursor := l.cursor.lineBreak.2
          keyAllowed := l.keyAllowed || !l.inFlow }
      else l

def skipMark (l : Lexer) : Lexer :=
  if l.cursor.index = 0 ∧ l.cursor.peek = byteOrderMark then l.skip 1 else l

def endBlocks (l : Lexer) : Except Stop Lexer := do
  let l ← (l.close (-1)).dropKey
  return { l with keyAllowed := false }

def finish (l : Lexer) : Except Stop Lexer := do
  let l ← l.endBlocks
  return { l.emit .streamEnd with key := none, outerKeys := [] }

def directive (l : Lexer) : Except Stop Lexer := do
  let l ← l.endBlocks
  let (t, cursor) ← Property.directive l.cursor
  return { l.emit t with cursor }

def documentMark (t : Token) (l : Lexer) : Except Stop Lexer := do
  let l ← l.endBlocks
  return (l.skip 3).emit t

def openFlow (t : Token) (l : Lexer) : Except Stop Lexer := do
  let l ← l.noteKey
  return { (l.skip 1).emit t with
    key := none, outerKeys := l.key :: l.outerKeys, keyAllowed := true }

def closeFlow (t : Token) (l : Lexer) : Except Stop Lexer := do
  let l ← l.dropKey
  return { (l.skip 1).emit t with
    key := l.outerKeys.headD none, outerKeys := l.outerKeys.tail, keyAllowed := false }

def separator (l : Lexer) : Except Stop Lexer := do
  let l ← l.dropKey
  return { (l.skip 1).emit .separator with keyAllowed := true }

def blockMark (start mark : Token) (keyAllowed : Bool) (l : Lexer) : Except Stop Lexer := do
  if !l.inFlow && !l.keyAllowed then l.cursor.refuse
  else
    let l ← (l.openBlock start).dropKey
    return { (l.skip 1).emit mark with keyAllowed }

def value (l : Lexer) : Except Stop Lexer :=
  match l.key with
  | none => blockMark .mappingStart .value (!l.inFlow) l
  | some k =>
      let opens := l.opensAt k.column
      let mark : Mark := if opens then .startsMapping else .startsKey
      let l := if opens then l.indentTo k.column else l
      .ok { (l.skip 1) with
        tokens := (l.tokens.modify k.token fun m => (mark, m.2)).push (.none, .value)
        key := none
        keyAllowed := false }

def node (read : Cursor → Except Stop (Token × Cursor)) (l : Lexer) : Except Stop Lexer := do
  let l ← l.noteKey
  let (t, cursor) ← read l.cursor
  return { l.emit t with cursor, keyAllowed := false }

def plain (l : Lexer) : Except Stop Lexer := do
  let l ← l.noteKey
  let s := Plain.scalar l.inFlow (l.indent + 1) l.cursor
  return { l.emit (.scalar s.text true) with cursor := s.after, keyAllowed := s.crossesLine }

def block (l : Lexer) : Except Stop Lexer := do
  let l ← l.dropKey
  let (t, cursor) ← Block.scalar l.indent l.cursor
  return { l.emit (.scalar t false) with cursor, keyAllowed := true }

def quoted (c : Cursor) : Except Stop (Token × Cursor) :=
  (Quoted.scalar c).map fun (t, c) => (.scalar t false, c)

def reference (c : Cursor) : Except Stop (Token × Cursor) :=
  (Property.anchor c).map fun (t, c) => (.reference t, c)

def anchor (c : Cursor) : Except Stop (Token × Cursor) :=
  (Property.anchor c).map fun (t, c) => (.anchor t, c)

def tag (c : Cursor) : Except Stop (Token × Cursor) :=
  (Property.tag c).map fun (t, c) => (.tag t, c)

def token (l : Lexer) : Except Stop Lexer :=
  let c := l.cursor
  let atStart := c.column == 0
  let apart := isGap (c.peekAt 1)
  match c.peek with
  | 0 => l.finish
  | ch =>
      if ch = 37 ∧ atStart then l.directive
      else if ch = 45 ∧ atStart ∧ c.isSeparator then l.documentMark .documentStart
      else if ch = 46 ∧ atStart ∧ c.isSeparator then l.documentMark .documentEnd
      else if ch = 91 then l.openFlow .flowSequenceStart
      else if ch = 123 then l.openFlow .flowMappingStart
      else if ch = 93 then l.closeFlow .flowSequenceEnd
      else if ch = 125 then l.closeFlow .flowMappingEnd
      else if ch = 44 then l.separator
      else if ch = 45 ∧ apart then l.blockMark .sequenceStart .entry true
      else if ch = 63 ∧ (l.inFlow ∨ apart) then l.blockMark .mappingStart .key (!l.inFlow)
      else if ch = 58 ∧ (l.inFlow ∨ apart) then l.value
      else if ch = 42 then l.node reference
      else if ch = 38 then l.node anchor
      else if ch = 33 then l.node tag
      else if (ch = 124 ∨ ch = 62) ∧ !l.inFlow then l.block
      else if ch = 39 ∨ ch = 34 then l.node quoted
      else if Plain.starts l.inFlow c then l.plain
      else c.refuse

def step (l : Lexer) : Except Stop Lexer := do
  let l := l.skipMark.skipGap (l.cursor.left + 1)
  let l ← l.dropStale
  (l.close l.cursor.column).token

def isFinished (l : Lexer) : Bool :=
  l.tokens.back?.any fun m => m.2 = .streamEnd

def faultFor (unreadable : Option Fault) (s : Stop) : Fault :=
  if s.atEnd then unreadable.getD s.fault else s.fault

def cutOff? (unreadable : Option Fault) (l : Lexer) : Option Fault :=
  if l.cursor.isAtEnd then unreadable else none

/-- Reads all tokens; every step but the last takes at least one character. -/
def run (unreadable : Option Fault) : Nat → Lexer → List Token
  | 0, l => l.settled ++ [.fault .malformed]
  | fuel + 1, l =>
      match l.step with
      | .error stop => l.settled ++ [.fault (faultFor unreadable stop)]
      | .ok next =>
          match cutOff? unreadable next with
          | some fault => l.settled ++ [.fault fault]
          | none => if next.isFinished then next.settled else run unreadable fuel next

end Lexer

def Token.ofSource (s : Source) : List Token :=
  Lexer.run s.fault (s.text.length + 1) { cursor := { rest := s.text } }

end SubtreePartition.Yaml
