import SubtreePartition.Yaml.Making
import SubtreePartition.Yaml.Node.Reader
import SubtreePartition.Yaml.Token.Lexer

namespace SubtreePartition.Yaml

structure Document where
  nodes : Graph
  root : Option Nat
  deriving Repr

namespace Document

def ofTokens (tokens : List Token) : Except Fault Document := do
  let (root, r) ← (Reading.single (4 * tokens.length + 4)).run { tokens }
  return ⟨r.nodes, root⟩

end Document

namespace Made

def datum (below : Array Datum) : Made → Datum
  | .scalar s => .scalar s
  | .items ids => .list (ids.map part)
  | .keys ks => .list (ks.map Datum.scalar)
  | .members ms => .mapping (ms.map fun m => (m.1, part m.2))
  | .pairs ps => .list (ps.map fun p => .list [part p.1, part p.2])
where
  part (id : Nat) : Datum := below.getD id (.scalar .null)

end Made

/-- The values of all parts down to a number of levels; what is further inside is null. A part may
be inside itself, so that no number of levels need be enough. -/
def unfold (made : Array (Option Made)) : Nat → Array Datum
  | 0 => made.map fun _ => .scalar .null
  | levels + 1 =>
      let below := unfold made levels
      made.map fun m => (m.map (Made.datum below)).getD (.scalar .null)

def read (levels : Nat) (s : Source) : Except Fault Datum := do
  let d ← Document.ofTokens (Token.ofSource s)
  match d.root with
  | none => return .scalar .null
  | some root =>
      let made ← d.nodes.make root
      return (unfold made levels).getD root (.scalar .null)

end SubtreePartition.Yaml
