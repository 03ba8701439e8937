import SubtreePartition.Markup.Color

namespace SubtreePartition.Markup

def traitNames : List Text :=
  ["bold", "dim", "italic", "underline", "blink", "blink2", "reverse", "conceal", "strike",
    "underline2", "frame", "encircle", "overline"]

def shortNames : List (Text × Text) :=
  [("b", "bold"), ("d", "dim"), ("i", "italic"), ("u", "underline"), ("uu", "underline2"),
    ("r", "reverse"), ("c", "conceal"), ("s", "strike"), ("o", "overline")]

def trait? (word : Text) : Option Text :=
  if traitNames.contains word then some word
  else (shortNames.find? fun n => n.1 = word).map Prod.snd

structure Look where
  traits : List (Text × Bool) := []
  color : Option Text := none
  background : Option Text := none
  link : Option Text := none
  deriving DecidableEq, Repr

namespace Look

def give (l : Look) (trait : Text) (b : Bool) : Look :=
  { l with traits := (trait, b) :: l.traits }

def ofWords (l : Look) : List Text → Except LookFault Look
  | [] => .ok l
  | word :: rest =>
      let small := Text.lowercase word
      if small = ("on" : Text) then
        match rest with
        | [] => .error .unknown
        | ground :: rest =>
            match Markup.color ground with
            | .ok name => ofWords { l with background := some name } rest
            | .error e => .error e
      else if small = ("not" : Text) then
        match rest with
        | [] => .error .unknown
        | denied :: rest =>
            match trait? denied with
            | some a => ofWords (l.give a false) rest
            | none => .error .unknown
      else if small = ("link" : Text) then
        match rest with
        | [] => .error .unknown
        | target :: rest => ofWords { l with link := some target } rest
      else
        match trait? small, Markup.color small with
        | some a, _ => ofWords (l.give a true) rest
        | none, .ok name => ofWords { l with color := some name } rest
        | none, .error e => .error e

def nothing : Text := "none"

def ofText (t : Text) : Except LookFault Look :=
  if Text.trim Text.isSpace t = nothing then .ok {} else ofWords {} (Text.words t)

def traitWords (l : Look) (trait : Text) : List Text :=
  match l.traits.find? fun a => a.1 = trait with
  | some (_, true) => [trait]
  | some (_, false) => ["not", trait]
  | none => []

def words (l : Look) : List Text :=
  traitNames.flatMap l.traitWords ++ l.color.toList ++
    (l.background.map fun c => [Text.ofString "on", c]).getD [] ++
    (l.link.map fun t => [Text.ofString "link", t]).getD []

def text (l : Look) : Text :=
  match l.words with
  | [] => nothing
  | ws => Text.intercalate [32] ws

end Look

def name (t : Text) : Except Text.NumeralFault Text :=
  match Look.ofText t with
  | .ok l => .ok l.text
  | .error .unknown => .ok (Text.lowercase (Text.trim Text.isSpace t))
  | .error (.number fault) => .error fault

end SubtreePartition.Markup
