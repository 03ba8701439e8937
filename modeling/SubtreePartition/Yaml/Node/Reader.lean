import SubtreePartition.Yaml.Node
import SubtreePartition.Yaml.Scalar
import SubtreePartition.Yaml.Token

namespace SubtreePartition.Yaml

structure Reader where
  tokens : List Token
  nodes : Graph := #[]
  anchors : List (Text × Nat) := []
  handles : List (Text × Text) := []
  deriving Repr

abbrev Reading := StateT Reader (Except Fault)

namespace Reading

def refuse {α : Type} : Reading α :=
  throw .malformed

def peek : Reading Token := do
  match (← get).tokens with
  | [] => refuse
  | .fault fault :: _ => throw fault
  | t :: _ => return t

def drop : Reading Unit :=
  modify fun r => { r with tokens := r.tokens.tail }

def take : Reading Token := do
  let t ← peek
  drop
  return t

def accept (t : Token) : Reading Bool := do
  if (← peek) = t then
    drop
    return true
  else return false

def expect (t : Token) : Reading Unit := do
  if !(← accept t) then refuse

def push (n : Node) : Reading Nat := do
  let r ← get
  set { r with nodes := r.nodes.push n }
  return r.nodes.size

def empty : Reading Nat :=
  push .empty

def reserve (anchor : Option Text) (n : Node) : Reading Nat := do
  match anchor with
  | none => push n
  | some name =>
      if ((← get).anchors.any fun a => a.1 = name) then refuse
      else
        let id ← push n
        modify fun r => { r with anchors := (name, id) :: r.anchors }
        return id

def fill (id : Nat) (content : Content) : Reading Nat := do
  modify fun r => { r with nodes := r.nodes.modify id fun n => { n with content } }
  return id

def lookup (name : Text) : Reading Nat := do
  match (← get).anchors.find? fun a => a.1 = name with
  | some a => return a.2
  | none => refuse

def standardHandles : List (Text × Text) :=
  [("!", "!"), ("!!", Tag.standardStem)]

def tagName : TagForm → Reading Text
  | .whole name => return name
  | .short handle suffix => do
      match ((← get).handles ++ standardHandles).find? fun h => h.1 = handle with
      | some h => return h.2 ++ suffix
      | none => refuse

structure Properties where
  anchor : Option Text := none
  tag : Option Text := none
  deriving DecidableEq, Repr

namespace Properties

def isEmpty (p : Properties) : Bool :=
  p.anchor.isNone && p.tag.isNone

def isOpen (p : Properties) : Bool :=
  p.tag.all fun t => t = Tag.nonSpecific

def tagOr (p : Properties) (usual : Tag) : Tag :=
  if p.isOpen then usual else Tag.ofName (p.tag.getD [])

def scalarTag (p : Properties) (t : Text) (plain : Bool) : Tag :=
  if p.tag.isNone && !plain then .text else p.tagOr (Tag.ofPlain t)

end Properties

def anchor? : Reading (Option Text) := do
  match ← peek with
  | .anchor name =>
      drop
      return some name
  | _ => return none

def tag? : Reading (Option TagForm) := do
  match ← peek with
  | .tag form =>
      drop
      return some form
  | _ => return none

def properties : Reading Properties := do
  let first ← anchor?
  let form ← tag?
  let anchor ← if first.isNone && form.isSome then anchor? else pure first
  match form with
  | none => return { anchor }
  | some form => return { anchor, tag := some (← tagName form) }

def leaf (p : Properties) (t : Text) (plain : Bool) : Reading Nat :=
  reserve p.anchor ⟨p.scalarTag t plain, .scalar t⟩

mutual

/-- Reads one part, outside of brackets if `block` holds. Below a key, the entries of a sequence may
stand without an indentation of their own if `indentless` holds. -/
def node (block indentless : Bool) : Nat → Reading Nat
  | 0 => refuse
  | fuel + 1 => do
      match ← peek with
      | .reference name =>
          drop
          lookup name
      | _ =>
          let p ← properties
          match ← peek with
          | .entry =>
              if indentless then
                let id ← reserve p.anchor ⟨p.tagOr .sequence, .sequence []⟩
                fill id (.sequence (← indentlessItems fuel))
              else unwritten p
          | .scalar t plain =>
              drop
              leaf p t plain
          | .flowSequenceStart =>
              drop
              let id ← reserve p.anchor ⟨p.tagOr .sequence, .sequence []⟩
              fill id (.sequence (← flowItems true fuel))
          | .flowMappingStart =>
              drop
              let id ← reserve p.anchor ⟨p.tagOr .mapping, .mapping []⟩
              fill id (.mapping (← flowMembers true fuel))
          | .sequenceStart =>
              if block then
                drop
                let id ← reserve p.anchor ⟨p.tagOr .sequence, .sequence []⟩
                fill id (.sequence (← items fuel))
              else unwritten p
          | .mappingStart =>
              if block then
                drop
                let id ← reserve p.anchor ⟨p.tagOr .mapping, .mapping []⟩
                fill id (.mapping (← members fuel))
              else unwritten p
          | _ => unwritten p
where
  unwritten (p : Properties) : Reading Nat :=
    if p.isEmpty then refuse else leaf p [] true

def nodeUnless (ends : List Token) (block indentless : Bool) : Nat → Reading Nat
  | 0 => refuse
  | fuel + 1 => do
      if ends.contains (← peek) then empty else node block indentless fuel

def items : Nat → Reading (List Nat)
  | 0 => refuse
  | fuel + 1 => do
      match ← take with
      | .entry =>
          let item ← nodeUnless [.entry, .blockEnd] true false fuel
          return item :: (← items fuel)
      | .blockEnd => return []
      | _ => refuse

def indentlessItems : Nat → Reading (List Nat)
  | 0 => refuse
  | fuel + 1 => do
      if ← accept .entry then
        let item ← nodeUnless [.entry, .key, .value, .blockEnd] true false fuel
        return item :: (← indentlessItems fuel)
      else return []

def valueUnless (ends : List Token) (block indentless : Bool) : Nat → Reading Nat
  | 0 => refuse
  | fuel + 1 => do
      if ← accept .value then nodeUnless ends block indentless fuel else empty

def members : Nat → Reading (List (Nat × Nat))
  | 0 => refuse
  | fuel + 1 => do
      match ← take with
      | .key =>
          let key ← nodeUnless [.key, .value, .blockEnd] true true fuel
          let value ← valueUnless [.key, .value, .blockEnd] true true fuel
          return (key, value) :: (← members fuel)
      | .blockEnd => return []
      | _ => refuse

def flowItems (first : Bool) : Nat → Reading (List Nat)
  | 0 => refuse
  | fuel + 1 => do
      if ← accept .flowSequenceEnd then return []
      else
        if !first then expect .separator
        match ← peek with
        | .flowSequenceEnd =>
            drop
            return []
        | .key =>
            drop
            let id ← push ⟨.mapping, .mapping []⟩
            let key ← nodeUnless [.value, .separator, .flowSequenceEnd] false false fuel
            let value ← valueUnless [.separator, .flowSequenceEnd] false false fuel
            let item ← fill id (.mapping [(key, value)])
            return item :: (← flowItems false fuel)
        | _ =>
            let item ← node false false fuel
            return item :: (← flowItems false fuel)

def flowMembers (first : Bool) : Nat → Reading (List (Nat × Nat))
  | 0 => refuse
  | fuel + 1 => do
      if ← accept .flowMappingEnd then return []
      else
        if !first then expect .separator
        match ← peek with
        | .flowMappingEnd =>
            drop
            return []
        | .key =>
            drop
            let key ← nodeUnless [.value, .separator, .flowMappingEnd] false false fuel
            let value ← valueUnless [.separator, .flowMappingEnd] false false fuel
            return (key, value) :: (← flowMembers false fuel)
        | _ =>
            let key ← node false false fuel
            let value ← empty
            return (key, value) :: (← flowMembers false fuel)

end

def directives (versioned : Bool) : Nat → Reading Unit
  | 0 => refuse
  | fuel + 1 => do
      match ← peek with
      | .version major =>
          if versioned || major ≠ 1 then refuse
          else
            drop
            directives true fuel
      | .tagHandle handle stem =>
          if ((← get).handles.any fun h => h.1 = handle) then refuse
          else
            drop
            modify fun r => { r with handles := (handle, stem) :: r.handles }
            directives versioned fuel
      | .otherDirective =>
          drop
          directives versioned fuel
      | _ => return ()

def isDirective : Token → Bool
  | .version _ | .tagHandle .. | .otherDirective => true
  | _ => false

def document (fuel : Nat) : Reading Nat := do
  let t ← peek
  if isDirective t || t = .documentStart then
    directives false fuel
    expect .documentStart
    let t ← peek
    if isDirective t || [Token.documentStart, .documentEnd, .streamEnd].contains t then empty
    else node true false fuel
  else node true false fuel

def skipEnds : Nat → Reading Unit
  | 0 => return ()
  | fuel + 1 => do
      if ← accept .documentEnd then skipEnds fuel

def single (fuel : Nat) : Reading (Option Nat) := do
  if (← peek) = .streamEnd then return none
  else
    let root ← document fuel
    skipEnds fuel
    if (← peek) ≠ .streamEnd then
      directives false fuel
      let _ ← peek
      refuse
    else return some root

end Reading

end SubtreePartition.Yaml
