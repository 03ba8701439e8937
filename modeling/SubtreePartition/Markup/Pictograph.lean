import SubtreePartition.Text.Case
import SubtreePartition.Text.Decimal

namespace SubtreePartition.Markup

abbrev Pictographs := Text → Option Text

def presentations : List (Text × Text) :=
  [("-text", [0xFE0E]), ("-emoji", [0xFE0F])]

def splitPresentation (name : Text) : Text × Text :=
  match presentations.find? fun p => p.1.isSuffixOf name with
  | some (ending, selector) => (name.take (name.length - ending.length), selector)
  | none => (name, [])

namespace Pictographs

variable (ps : Pictographs)

def find? (name : Text) : Option Text :=
  let (bare, selector) := splitPresentation name
  (ps (Text.lowercase bare)).map (· ++ selector)

def ofName (name : Text) : Text :=
  (ps.find? name).getD (58 :: (name ++ [58]))

def joinNamed (done : List Text) : List Text → List Text
  | [] => done
  | [last] => last :: [58] :: done
  | name :: next :: rest =>
      if name.any Text.isSpace then joinNamed (name :: [58] :: done) (next :: rest)
      else joinNamed (next :: ps.ofName name :: done) rest

def showIn (t : Text) : Text :=
  match Text.pieces 58 t with
  | [] => t
  | first :: rest => (ps.joinNamed [first] rest).reverse.flatten

end Pictographs

end SubtreePartition.Markup
