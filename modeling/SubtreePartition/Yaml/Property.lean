import SubtreePartition.Text.Numeral
import SubtreePartition.Text.Utf8
import SubtreePartition.Yaml.Token

namespace SubtreePartition.Yaml.Property

def name (ends : CodePoint → Bool) (c : Cursor) : Except Stop (Text × Cursor) :=
  let (t, c) := c.span isNameCharacter
  if t.isEmpty || !ends c.peek then c.refuse else .ok (t, c)

def endsAnchor (c : CodePoint) : Bool :=
  isGap c || ("?:,]\x7d%@\x60" : Text).contains c

def anchor (c : Cursor) : Except Stop (Text × Cursor) :=
  name endsAnchor c.next

def isTagCharacter (c : CodePoint) : Bool :=
  Text.isDigit c || Text.isLetter c || ("-;/?:@&=+$,_.!~*'()[]" : Text).contains c

def octets (done : Bytes) : Nat → Cursor → Except Stop (Bytes × Cursor)
  | 0, c => c.refuse
  | fuel + 1, c =>
      if c.peek ≠ 37 then .ok (done.reverse, c)
      else
        match Text.hexValue (c.peekAt 1), Text.hexValue (c.peekAt 2) with
        | some high, some low => octets (UInt8.ofNat (high * 16 + low) :: done) fuel (c.skip 3)
        | none, _ => c.next.refuse
        | some _, none => (c.skip 2).refuse

def tagNameFrom (done : Text) : Nat → Cursor → Except Stop (Text × Cursor)
  | 0, c => c.refuse
  | fuel + 1, c =>
      let (run, c) := c.span isTagCharacter
      let done := done ++ run
      if c.peek = 37 then do
        let (bytes, c) ← octets [] (c.left + 1) c
        match Utf8.decodeStrict bytes with
        | .ok t => tagNameFrom (done ++ t) fuel c
        | .error _ => c.refuse
      else if done.isEmpty then c.refuse
      else .ok (done, c)

def tagName (c : Cursor) : Except Stop (Text × Cursor) :=
  tagNameFrom [] (c.left + 1) c

def handle (c : Cursor) : Except Stop (Text × Cursor) :=
  if c.peek ≠ 33 then c.refuse
  else if c.peekAt 1 = 32 then .ok ([33], c.next)
  else
    let (name, after) := c.next.span isNameCharacter
    if after.peek = 33 then .ok (33 :: (name ++ [33]), after.next)
    else after.refuse

def hasHandle (c : Cursor) : Bool :=
  (c.next.rest.takeWhile fun ch => !endsWord ch).contains 33

def tagForm (c : Cursor) : Except Stop (TagForm × Cursor) := do
  let second := c.peekAt 1
  if second = 60 then
    let (name, c) ← tagName (c.skip 2)
    if c.peek = 62 then .ok (.whole name, c.next) else c.refuse
  else if isGap second then .ok (.whole [33], c.next)
  else
    let (handle, c) ← if hasHandle c then handle c else pure ([33], c.next)
    let (suffix, c) ← tagName c
    .ok (.short handle suffix, c)

def tag (c : Cursor) : Except Stop (TagForm × Cursor) := do
  let (form, c) ← tagForm c
  if endsWord c.peek then .ok (form, c) else c.refuse

def versionNumber (c : Cursor) : Except Stop (Nat × Cursor) :=
  let (digits, c) := c.span Text.isDigit
  match Text.digitsValue 10 digits with
  | some n =>
      if digits.isEmpty then c.refuse
      else if Text.longestNumeral < digits.length then
        c.stop (.numeral (.tooLong digits.length))
      else .ok (n, c)
  | none => c.refuse

def version (c : Cursor) : Except Stop (Token × Cursor) := do
  let (major, c) ← versionNumber (c.skipWhile isSpace)
  if c.peek ≠ 46 then c.refuse
  else
    let (_, c) ← versionNumber c.next
    if endsWord c.peek then .ok (.version major, c) else c.refuse

def tagHandle (c : Cursor) : Except Stop (Token × Cursor) := do
  let (handle, c) ← handle (c.skipWhile isSpace)
  if c.peek ≠ 32 then c.refuse
  else
    let (stem, c) ← tagName (c.skipWhile isSpace)
    if endsWord c.peek then .ok (.tagHandle handle stem, c) else c.refuse

def directive (c : Cursor) : Except Stop (Token × Cursor) := do
  let (name, c) ← name endsWord c.next
  let (token, c) ←
    if name = ("YAML" : Text) then version c
    else if name = ("TAG" : Text) then tagHandle c
    else pure (.otherDirective, c.skipWhile fun ch => !endsLine ch)
  return (token, ← c.finishLine)

end SubtreePartition.Yaml.Property
