import SubtreePartition.Markup.Literal.Token
import SubtreePartition.Number.Binary64

namespace SubtreePartition.Markup

/-- What is known of a value that is written out: whether it is a number, with a sign or without,
and whether it can be a key. -/
inductive Literal where
  | number (n : LiteralNumber)
  | signed (n : LiteralNumber)
  | key
  | collection
  deriving DecidableEq, Repr

namespace Literal

abbrev Reader := List LiteralToken → Option (Literal × List LiteralToken)

def canBeKey : Literal → Bool
  | .collection => false
  | _ => true

def ofItems (items : List Literal) : Literal :=
  if items.all canBeKey then .key else .collection

def isRealPart : Literal → Bool
  | .number (.integer n) | .signed (.integer n) => (Binary64.ofNat n).isFinite
  | .number .real | .signed .real => true
  | _ => false

def isSign (c : CodePoint) : Bool :=
  c = 43 || c = 45

def signedValue (atom : Reader) : Reader
  | .sign c :: rest =>
      if isSign c then
        match atom rest with
        | some (.number n, rest) => some (.signed n, rest)
        | _ => none
      else atom (.sign c :: rest)
  | ts => atom ts

def sum (atom : Reader) : Reader := fun ts => do
  let (left, rest) ← signedValue atom ts
  match rest with
  | .sign c :: more =>
      if isSign c then
        let (right, more) ← atom more
        if isRealPart left && right = .number .imaginary then return (.key, more) else none
      else return (left, rest)
  | _ => return (left, rest)

def listed (value : Reader) (close : LiteralToken) (done : List Literal) :
    Nat → List LiteralToken → Option (List Literal × Bool × List LiteralToken)
  | 0, _ => none
  | fuel + 1, ts =>
      if ts.head? = some close then some (done.reverse, true, ts.tail)
      else
        match value ts with
        | some (v, .sign 44 :: rest) => listed value close (v :: done) fuel rest
        | some (v, token :: rest) =>
            if token = close then some ((v :: done).reverse, false, rest) else none
        | _ => none

def members (value : Reader) : Nat → List LiteralToken → Option (List LiteralToken)
  | 0, _ => none
  | fuel + 1, ts =>
      if ts.head? = some (.sign 125) then some ts.tail
      else
        match value ts with
        | some (k, .sign 58 :: rest) =>
            if !k.canBeKey then none
            else
              match value rest with
              | some (_, .sign 44 :: rest) => members value fuel rest
              | some (_, .sign 125 :: rest) => some rest
              | _ => none
        | _ => none

def parenthesized (value : Reader) : Reader := fun ts => do
  let (items, comma, rest) ← listed value (.sign 41) [] ts.length ts
  match items, comma with
  | [v], false => return (v, rest)
  | _, _ => return (ofItems items, rest)

def braced (value : Reader) : Reader := fun ts => do
  if ts.head? = some (.sign 125) then return (.collection, ts.tail)
  let (_, rest) ← value ts
  if rest.head? = some (.sign 58) then
    return (.collection, ← members value ts.length ts)
  let (items, _, rest) ← listed value (.sign 125) [] ts.length ts
  if items.all canBeKey then return (.collection, rest) else none

def strings (octets : Bool) : List LiteralToken → Option (List LiteralToken)
  | .string o :: rest => if o = octets then strings octets rest else none
  | rest => some rest

def constants : List Text := ["None", "True", "False"]

def emptySet : Text := "set"

def atom (value : Reader) : Reader
  | .number n :: rest => some (.number n, rest)
  | .string octets :: rest => (strings octets rest).map fun rest => (.key, rest)
  | .dots :: rest => some (.key, rest)
  | .name t :: rest =>
      if constants.contains t then some (.key, rest)
      else if t = emptySet && rest.take 2 = [.sign 40, .sign 41] then
        some (.collection, rest.drop 2)
      else none
  | .sign 40 :: rest => parenthesized value rest
  | .sign 123 :: rest => braced value rest
  | _ => none

def value : Nat → Reader
  | 0 => fun _ => none
  | depth + 1 => sum (atom (value depth))

def deepestNesting : Nat := 200

def opens (c : CodePoint) : Bool :=
  c = 40 || c = 91 || c = 123

def closes (c : CodePoint) : Bool :=
  c = 41 || c = 93 || c = 125

def joinLines (done : List LiteralToken) (depth : Nat) : List LiteralToken → List LiteralToken
  | [] => done.reverse
  | .lineEnd :: rest =>
      joinLines (if depth = 0 then .lineEnd :: done else done) depth rest
  | .sign c :: rest =>
      joinLines (.sign c :: done)
        (if opens c then depth + 1 else if closes c then depth - 1 else depth) rest
  | token :: rest => joinLines (token :: done) depth rest

def isOfTokens (tokens : List LiteralToken) : Bool :=
  let line := Text.dropRight (· = .lineEnd) ((joinLines [] 0 tokens).dropWhile (· = .lineEnd))
  !line.isEmpty &&
    (listed (value (deepestNesting + 1)) .lineEnd [] (line.length + 1) (line ++ [.lineEnd])).any
      fun r => r.2.2.isEmpty

def isWritten (t : Text) : Bool :=
  (LiteralToken.all t).any isOfTokens

end Literal

end SubtreePartition.Markup
