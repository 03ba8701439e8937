import SubtreePartition.Proofs.Pass.Monotone
import SubtreePartition.Proofs.Splitter.Run

namespace SubtreePartition.Splitter

variable {p : Pass} {q : Planner} {lines : Store.Stream}

/-- With the rule `q` a pass accepts the same lines as with its own, cuts no more often, and makes no
cut earlier, as the lines are dealt out and in all runs that write them. -/
structure CutsLater (p : Pass) (q : Planner) (lines : Store.Stream) : Prop where
  accepts : ((p.withPlanner q).acceptAll lines.lines).2 = (p.acceptAll lines.lines).2
  dealt : StartsSooner ((groups p lines).map List.length)
    ((groups (p.withPlanner q) lines).map List.length)
  written : ∀ (s s' : Splitter) (t t' : FileTree) (log log' : Log),
    (s.writeOut t log p lines).phase = .done →
      (s'.writeOut t' log' (p.withPlanner q) lines).phase = .done →
        StartsSooner ((s.writeOut t log p lines).partitions.map Partition.records)
          ((s'.writeOut t' log' (p.withPlanner q) lines).partitions.map Partition.records)

theorem groups_startsSooner (h : p.planner.CutsSooner q) (lines : Store.Stream) :
    StartsSooner ((groups p lines).map List.length)
      ((groups (p.withPlanner q) lines).map List.length) := by
  rw [groups, groups, Pass.acceptAll_withPlanner, Pass.acceptAll_fst]
  exact Pass.deal_startsSooner h _

theorem cutsLater_of_cutsSooner (h : p.planner.CutsSooner q) (lines : Store.Stream) :
    CutsLater p q lines := by
  refine ⟨congrArg Prod.snd (p.acceptAll_withPlanner q lines.lines), groups_startsSooner h lines, ?_⟩
  intro s s' t t' log log' hdone hdone'
  rw [partitions_of_done hdone, partitions_of_done hdone', Target.map_records_filledFrom,
    Target.map_records_filledFrom]
  exact groups_startsSooner h lines

def eagerPass : Pass :=
  ⟨.strict, Record.defaultField, ⟨⟨["P"], by decide⟩, 0, 4⟩⟩

def patientPlanner : Planner :=
  ⟨⟨["P", "Q"], by decide⟩, 6, 3⟩

def nestedStream : Store.Stream :=
  ⟨[Utf8.encode "/a|\x7b\"jcr:primaryType\":\"P\"\x7d\n", Utf8.encode "/a/b|{}\n",
    Utf8.encode "/c|\x7b\"jcr:primaryType\":\"Q\"\x7d\n", Utf8.encode "/c/d|{}\n",
    Utf8.encode "/e|{}\n"], none⟩

def splitterOfNested : Splitter :=
  { source := ⟨1, ["store"]⟩
    settings := { workDir := ⟨1, []⟩ }
    boundaries := .fixed .empty }

theorem cutsLater_nested :
    let r := splitterOfNested.writeOut {} [] eagerPass nestedStream
    let r' := splitterOfNested.writeOut {} [] (eagerPass.withPlanner patientPlanner) nestedStream
    CutsLater eagerPass patientPlanner nestedStream ∧ r.phase = .done ∧ r'.phase = .done ∧
      r.partitions.map Partition.records = [2, 1, 1, 1] ∧
      r'.partitions.map Partition.records = [2, 2, 1] := by
  intro r r'
  have hp : ∀ c, eagerPass.planner.protectedSet.contains c = true →
      patientPlanner.protectedSet.contains c = true := by
    intro c hc
    simp only [eagerPass, patientPlanner, CategorySet.contains, List.contains_iff_mem] at hc ⊢
    exact List.mem_cons.mpr (.inl (List.mem_singleton.mp hc))
  have hlater : CutsLater eagerPass patientPlanner nestedStream :=
    cutsLater_of_cutsSooner ⟨hp, by decide, by decide⟩ nestedStream
  exact ⟨hlater, by decide +kernel, by decide +kernel, by decide +kernel, by decide +kernel⟩

end SubtreePartition.Splitter
