import SubtreePartition.Text.Basic

namespace SubtreePartition.Markup

inductive Piece where
  | text (t : Text)
  | mark (t : Text)
  deriving DecidableEq, Repr

def startsMark (c : CodePoint) : Bool :=
  Text.isLower c || c == 35 || c == 47 || c == 64

def mark? : Text → Option (Text × Text)
  | [] => none
  | c :: rest =>
      if startsMark c then
        let inside := rest.takeWhile fun d => d ≠ 91 && d ≠ 93
        match rest.drop inside.length with
        | 93 :: more => some (c :: inside, more)
        | _ => none
      else none

def dropEscapesFrom (done : Text) : Text → Text
  | 92 :: 91 :: rest => dropEscapesFrom (91 :: done) rest
  | c :: rest => dropEscapesFrom (c :: done) rest
  | [] => done.reverse

def dropEscapes (t : Text) : Text :=
  dropEscapesFrom [] t

def escapedMark (backslashes : Nat) (inside : Text) : List Piece :=
  let shown := Piece.text (List.replicate (backslashes / 2) 92)
  if backslashes % 2 = 1 then [shown, .text (91 :: (inside ++ [93]))] else [shown, .mark inside]

def piecesFrom (done : List Piece) (before : Text) : Nat → Text → List Piece
  | _, [] | 0, _ => (.text (dropEscapes before.reverse) :: done).reverse
  | fuel + 1, c :: rest =>
      let t := c :: rest
      let backslashes := (t.takeWhile (· = 92)).length
      match t.drop backslashes with
      | 91 :: inside =>
          match mark? inside with
          | some (m, more) =>
              let done := .text (dropEscapes before.reverse) :: done
              piecesFrom ((escapedMark backslashes m).reverse ++ done) [] fuel more
          | none => piecesFrom done (91 :: (List.replicate backslashes 92 ++ before)) fuel inside
      | _ => piecesFrom done (c :: before) fuel rest

def pieces (t : Text) : List Piece :=
  piecesFrom [] [] t.length t

end SubtreePartition.Markup
