import SubtreePartition.Proofs.Pass.Greedy
import SubtreePartition.Proofs.Splitter.Lossless

namespace SubtreePartition.Splitter

open Pass

variable {lines : Store.Stream}

/-- The partitions are those of a greedy division that knows the records by their paths alone. -/
structure DividesByPath (p : Pass) (lines : Store.Stream) : Prop where
  records : lines.lines.map (Record.ofRaw p.field) = (p.records lines.lines).map .ok
  ancestor : ∀ n r k, (p.records lines.lines)[n]? = some r → 1 ≤ k → k < r.depth →
    ∃ q, Record.latest ((p.records lines.lines).take n) (r.segments.take k) = some q
  start_iff : ∀ n, n + 1 < lines.lines.length → (n + 1 ∈ p.cuts lines.lines ↔
    StartsAt p.planner (p.records lines.lines) lines.lines
      (starts p.planner (p.records lines.lines) lines.lines n) (n + 1))
  groups : groups p lines = slices (p.cuts lines.lines) lines.lines
  partitions : ∀ (s : Splitter) (t : FileTree) (log : Log),
    (s.writeOut t log p lines).outcome = .split →
      (s.writeOut t log p lines).partitions =
        (slices (p.cuts lines.lines) lines.lines).mapIdx fun k g => s.target.filled (k + 1) g
  files : ∀ (s : Splitter) (t : Volume) (log : Log) (bytes : Bytes),
    t.read s.source = .ok bytes → (s.writeOut t log p lines).outcome = .split →
      ∀ k g, (slices (p.cuts lines.lines) lines.lines)[k]? = some g →
        (s.writeOut t log p lines).tree.read (s.target.path (k + 1)) =
          .ok (Store.encode s.settings.compression g.flatten)

theorem dividesByPath_of_strict (p : Pass) (hm : p.mode = .strict) (ht : 0 ≤ p.planner.threshold)
    (ha : (p.acceptAll lines.lines).2 = none) : DividesByPath p lines := by
  have hgroups := deal_eq_slices hm ht ha
  refine ⟨map_ofRaw ha, ?_, ?_, hgroups, ?_, ?_⟩
  · intro n r k hr hk hkd
    exact exists_latest_ancestor hm ha hr hk hkd
  · intro n hn
    exact mem_starts_iff p.planner _ lines.lines (show n + 1 ≤ lines.lines.length - 1 by omega)
  · intro s t log h
    rw [← hgroups]
    exact partitions_of_split h
  · intro s t log bytes hb h k g hg
    rw [← hgroups] at hg
    exact read_path_of_split t.wellFormed (FileTree.Extends.refl t) hb h hg

def repeatedLines : Store.Stream :=
  ⟨[Utf8.encode "/a|\x7b\"jcr:primaryType\":\"P\"\x7d\n", Utf8.encode "/a/b|{}\n",
    Utf8.encode "/a|{}\n", Utf8.encode "/a/c|{}\n"], none⟩

theorem dividesByPath_repeated :
    let p : Pass := ⟨.strict, Record.defaultField, ⟨.ofList ["P"], 0, 10⟩⟩
    DividesByPath p repeatedLines ∧ p.cuts repeatedLines.lines = [0, 2, 3] := by
  intro p
  have ha : (p.acceptAll repeatedLines.lines).2 = none := by decide +kernel
  have hcuts : p.cuts repeatedLines.lines = [0, 2, 3] := by decide +kernel
  exact ⟨dividesByPath_of_strict p rfl (Int.le_refl 0) ha, hcuts⟩

end SubtreePartition.Splitter
