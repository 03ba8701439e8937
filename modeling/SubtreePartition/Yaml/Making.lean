import SubtreePartition.Yaml.Node
import SubtreePartition.Yaml.Scalar

namespace SubtreePartition.Yaml

inductive Made where
  | scalar (s : Scalar)
  | items (ids : List Nat)
  | keys (ks : List Scalar)
  | members (ms : List (Scalar × Nat))
  | pairs (ps : List (Nat × Nat))
  deriving DecidableEq, Repr

structure MadeKey where
  scalar : Scalar
  part : Option Nat := none
  deriving DecidableEq, Repr

namespace MadeKey

def same (a b : MadeKey) : Bool :=
  a.scalar.same b.scalar && a.part = b.part

end MadeKey

/-- Parts of a document on the way to values. A collection is begun when it is first mentioned, and
completed after all that have been begun before it; `begun` holds those to come, the last one
first. -/
structure Making where
  nodes : Graph
  made : Array (Option Made)
  begun : List Nat := []
  deriving Repr

abbrev Make := StateT Making (Except Fault)

namespace Make

def refuse {α : Type} : Make α :=
  throw .malformed

def node (id : Nat) : Make Node := do
  match (← get).nodes[id]? with
  | some n => return n
  | none => refuse

def members (id : Nat) : Make (List (Nat × Nat)) := do
  match (← node id).content with
  | .mapping ms => return ms
  | _ => refuse

def setMembers (id : Nat) (ms : List (Nat × Nat)) : Make Unit :=
  modify fun m => { m with nodes := m.nodes.modify id fun n => { n with content := .mapping ms } }

def setTag (id : Nat) (tag : Tag) : Make Unit :=
  modify fun m => { m with nodes := m.nodes.modify id fun n => { n with tag } }

def sourceMembers (flatten : Nat → Make Unit) (source : Nat) : Make (List (Nat × Nat)) := do
  match (← node source).content with
  | .mapping _ =>
      flatten source
      members source
  | .sequence items =>
      let lists ← items.mapM fun item => do
        let _ ← members item
        flatten item
        members item
      return lists.reverse.flatten
  | .scalar _ => refuse

def gather (flatten : Nat → Make Unit) (id index : Nat) (merged : List (Nat × Nat)) :
    Nat → Make (List (Nat × Nat))
  | 0 => return merged
  | count + 1 => do
      let ms ← members id
      match ms[index]? with
      | none => return merged
      | some (key, source) =>
          match (← node key).tag with
          | .merge =>
              setMembers id (ms.eraseIdx index)
              let more ← sourceMembers flatten source
              gather flatten id index (merged ++ more) count
          | .value =>
              setTag key .text
              gather flatten id (index + 1) merged count
          | _ => gather flatten id (index + 1) merged count

def flattenWith : Nat → Nat → Make Unit
  | 0, _ => refuse
  | levels + 1, id => do
      let merged ← gather (flattenWith levels) id 0 [] (← members id).length
      if !merged.isEmpty then setMembers id (merged ++ (← members id))

def memberCount (g : Graph) : Nat :=
  g.foldl (fun count n => match n.content with
    | .mapping ms => count + ms.length
    | _ => count) 0

def flatten (id : Nat) : Make Unit := do
  flattenWith (memberCount (← get).nodes + 1) id

def textWith : Nat → Nat → Make Text
  | 0, _ => throw .endless
  | fuel + 1, id => do
      match (← node id).content with
      | .scalar t => return t
      | .sequence _ => refuse
      | .mapping ms =>
          let nodes := (← get).nodes
          match ms.find? fun m => nodes[m.1]?.any fun n => n.tag = .value with
          | some m => textWith fuel m.2
          | none => refuse

def text (id : Nat) : Make Text := do
  textWith ((← get).nodes.size + 1) id

def set (id : Nat) (made : Made) : Make Unit :=
  modify fun m => { m with made := m.made.setIfInBounds id (some made) }

def begin (id : Nat) : Make (Option Scalar) := do
  set id (.items [])
  modify fun m => { m with begun := id :: m.begun }
  return none

def makeScalar (id : Nat) (n : Node) : Make (Option Scalar) := do
  let t ← text id
  match n.tag, n.content with
  | .timestamp, .mapping _ => throw .notAText
  | tag, _ =>
      let s ← tag.scalar t
      set id (.scalar s)
      return some s

def make (id : Nat) : Make (Option Scalar) := do
  match (← get).made.getD id none with
  | some (.scalar s) => return some s
  | some _ => return none
  | none =>
      let n ← node id
      match n.tag with
      | .sequence | .mapping | .set | .orderedMapping | .pairs => begin id
      | .merge | .value => refuse
      | .unknown name => throw (.unknownTag name)
      | _ => makeScalar id n

def makeItems (id : Nat) : Make (List Nat) := do
  match (← node id).content with
  | .sequence items =>
      items.forM fun item => do let _ ← make item
      return items
  | _ => refuse

def keyOf (id : Nat) (s : Scalar) : Make MadeKey := do
  if s = .real .nan && !Real.namesNan (← text id) then return ⟨s, some id⟩
  else return ⟨s, none⟩

def makeMembers (id : Nat) : Make (List (Scalar × Nat)) := do
  let _ ← members id
  flatten id
  let made ← (← members id).foldlM
    (fun done (key, value) => do
      match ← make key with
      | none => refuse
      | some s =>
          let _ ← make value
          return Datum.assignBy MadeKey.same (← keyOf key s) value done)
    []
  return made.map fun m => (m.1.scalar, m.2)

def makePairs (id : Nat) : Make (List (Nat × Nat)) := do
  match (← node id).content with
  | .sequence items =>
      items.mapM fun item => do
        match ← members item with
        | [m] =>
            let _ ← make m.1
            let _ ← make m.2
            return m
        | _ => refuse
  | _ => refuse

def complete (id : Nat) : Make Unit := do
  match (← node id).tag with
  | .sequence => set id (.items (← makeItems id))
  | .mapping => set id (.members (← makeMembers id))
  | .set => set id (.keys ((← makeMembers id).map Prod.fst))
  | _ => set id (.pairs (← makePairs id))

def completeAll : Nat → Make Unit
  | 0 => return ()
  | fuel + 1 => do
      let begun := (← get).begun
      if begun.isEmpty then return ()
      else
        modify fun m => { m with begun := [] }
        begun.reverse.forM complete
        completeAll fuel

end Make

def Graph.make (g : Graph) (root : Nat) : Except Fault (Array (Option Made)) := do
  let all : Make Unit := do
    let _ ← Make.make root
    Make.completeAll (g.size + 1)
  let (_, m) ← all.run { nodes := g, made := Array.replicate g.size none }
  return m.made

end SubtreePartition.Yaml
