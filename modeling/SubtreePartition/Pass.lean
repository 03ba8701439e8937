import SubtreePartition.Ancestry
import SubtreePartition.Planner
import SubtreePartition.Record.Line

namespace SubtreePartition

inductive Rejection where
  | malformed (fault : RecordFault)
  | unsorted (fault : Unsorted)
  deriving DecidableEq, Repr

structure Item where
  raw : Bytes
  ancestors : List Text
  deriving DecidableEq, Repr

structure Pass where
  mode : OrderMode
  field : Text
  planner : Planner
  deriving DecidableEq, Repr

namespace Pass

def accept (p : Pass) (a : Ancestry) (raw : Bytes) : Except Rejection (Ancestry × Item) :=
  match Record.ofRaw p.field raw with
  | .error fault => .error (.malformed fault)
  | .ok r =>
      match a.enter p.mode r with
      | (_, some fault) => .error (.unsorted fault)
      | (a, none) => .ok (a, ⟨raw, a.categories⟩)

def acceptFrom (p : Pass) (done : List Item) :
    Ancestry → List Bytes → List Item × Option Rejection
  | _, [] => (done.reverse, none)
  | a, raw :: rest =>
      match p.accept a raw with
      | .error rejection => (done.reverse, some rejection)
      | .ok (a, item) => acceptFrom p (item :: done) a rest

def acceptAll (p : Pass) (lines : List Bytes) : List Item × Option Rejection :=
  p.acceptFrom [] [] lines

theorem acceptFrom_append (p : Pass) (done more : List Item) (a : Ancestry) (lines : List Bytes) :
    p.acceptFrom (more ++ done) a lines =
      (done.reverse ++ (p.acceptFrom more a lines).1, (p.acceptFrom more a lines).2) := by
  induction lines generalizing more a with
  | nil => simp [acceptFrom]
  | cons raw rest ih =>
      simp only [acceptFrom]
      cases p.accept a raw with
      | error rejection => simp
      | ok next => exact ih (next.2 :: more) next.1

structure Draft where
  index : Nat
  lines : List Bytes
  size : Nat
  deriving DecidableEq, Repr

namespace Draft

def start (index : Nat) (raw : Bytes) : Draft :=
  ⟨index, [raw], raw.length⟩

def add (d : Draft) (raw : Bytes) : Draft :=
  ⟨d.index, raw :: d.lines, d.size + raw.length⟩

end Draft

/-- Deals the items out greedily: a partition is closed at the first item where the planner cuts.
`closed` are the partitions before the draft, last first. -/
def dealFrom (p : Planner) (closed : List (List Bytes)) (d : Draft) : List Item → List (List Bytes)
  | [] => (d.lines.reverse :: closed).reverse
  | item :: rest =>
      if p.cut d.size d.index item.ancestors then
        dealFrom p (d.lines.reverse :: closed) (.start (d.index + 1) item.raw) rest
      else dealFrom p closed (d.add item.raw) rest

/-- The lines of each partition. There is always a first partition, also without lines. -/
def deal (p : Planner) (items : List Item) : List (List Bytes) :=
  dealFrom p [] ⟨1, [], 0⟩ items

theorem flatten_dealFrom (p : Planner) (closed : List (List Bytes)) (d : Draft)
    (items : List Item) :
    (dealFrom p closed d items).flatten =
      closed.reverse.flatten ++ d.lines.reverse ++ items.map Item.raw := by
  induction items generalizing closed d with
  | nil => simp [dealFrom]
  | cons item rest ih =>
      unfold dealFrom
      split
      · simp [ih, Draft.start]
      · simp [ih, Draft.add]

theorem flatten_deal (p : Planner) (items : List Item) :
    (deal p items).flatten = items.map Item.raw := by
  simp [deal, flatten_dealFrom]

end Pass

end SubtreePartition
