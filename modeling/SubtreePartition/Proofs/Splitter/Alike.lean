import SubtreePartition.Proofs.Pass.Alike
import SubtreePartition.Proofs.Splitter.Run

namespace SubtreePartition

namespace Splitter

variable {s s' : Splitter} {t t' : FileTree} {log log' : Log} {p p' : Pass}
  {lines lines' : Store.Stream}

def sizes (r : Run) : List (Nat × Nat) :=
  r.partitions.map fun q => (q.size, q.records)

theorem sizes_of_done (h : (s.writeOut t log p lines).phase = .done) :
    sizes (s.writeOut t log p lines) =
      (Pass.shape (groups p lines)).map fun lengths => (lengths.sum, lengths.length) := by
  rw [sizes, partitions_of_done h, Pass.shape, List.map_map]
  refine Target.map_filledFrom (fun k lines => ?_) 1 _
  simp [Target.filled]

theorem shape_groups (ht : p.planner.threshold = p'.planner.threshold)
    (hm : p.planner.maxPartitions = p'.planner.maxPartitions)
    (hl : List.Forall₂ (Pass.Alike p p') lines.lines lines'.lines)
    (h : (p.acceptAll lines.lines).2 = none) (h' : (p'.acceptAll lines'.lines).2 = none) :
    Pass.shape (groups p lines) = Pass.shape (groups p' lines') :=
  Pass.shape_deal (Pass.alike_acceptAll hl h h') ht hm

/-- What is protected, how the order is kept, and all that the lines say beyond depth and protection
leave the partitions as they are. -/
theorem writeOut_sizes_of_alike (s s' : Splitter) (t t' : FileTree) (log log' : Log)
    (ht : p.planner.threshold = p'.planner.threshold)
    (hm : p.planner.maxPartitions = p'.planner.maxPartitions)
    (hl : List.Forall₂ (Pass.Alike p p') lines.lines lines'.lines)
    (h : (s.writeOut t log p lines).phase = .done)
    (h' : (s'.writeOut t' log' p' lines').phase = .done) :
    sizes (s.writeOut t log p lines) = sizes (s'.writeOut t' log' p' lines') := by
  obtain ⟨-, haccepts, -⟩ := complete_of_done h
  obtain ⟨-, haccepts', -⟩ := complete_of_done h'
  have hshape := shape_groups ht hm hl haccepts haccepts'
  rw [sizes_of_done h, sizes_of_done h', hshape]

theorem alike_of_ofRaw {raw raw' : Bytes} (r r' : Record)
    (hr : Record.ofRaw p.field raw = .ok r) (hr' : Record.ofRaw p'.field raw' = .ok r')
    (hlength : raw.length = raw'.length) (hdepth : r.depth = r'.depth)
    (hprotected : p.planner.protectedSet.contains r.category =
      p'.planner.protectedSet.contains r'.category) : Pass.Alike p p' raw raw' where
  length := hlength
  depth := by
    intro q q' hq hq'
    obtain rfl := Except.ok.inj (hr.symm.trans hq)
    obtain rfl := Except.ok.inj (hr'.symm.trans hq')
    exact hdepth
  isProtected := by
    intro q q' hq hq'
    obtain rfl := Except.ok.inj (hr.symm.trans hq)
    obtain rfl := Except.ok.inj (hr'.symm.trans hq')
    exact hprotected

def sortedPass : Pass :=
  ⟨.strict, Record.defaultField, ⟨.ofList ["P"], 0, 10⟩⟩

def sortedStream : Store.Stream :=
  ⟨[Utf8.encode "/a|\x7b\"jcr:primaryType\":\"P\"\x7d\n", Utf8.encode "/a/b|{}\n",
    Utf8.encode "/cd|{}\n"], none⟩

def unsortedPass : Pass :=
  ⟨.lenient, "type", ⟨⟨["Q", "R"], by decide⟩, 0, 10⟩⟩

def unsortedStream : Store.Stream :=
  ⟨[Utf8.encode "/longest|\x7b\"type\":\"nam:Q\"\x7d\r\n", Utf8.encode "/x/y|{}\n",
    Utf8.encode "/z|{}\r\n"], none⟩

def splitterOfAlike (compression : Compression) : Splitter :=
  { source := ⟨1, ["store"]⟩
    settings := { workDir := ⟨1, []⟩, compression := compression }
    boundaries := .fixed .empty }

theorem writeOut_sizes_sorted_unsorted :
    let r := (splitterOfAlike .none).writeOut {} [] sortedPass sortedStream
    let r' := (splitterOfAlike .gzip).writeOut {} [] unsortedPass unsortedStream
    r.phase = .done ∧ r'.phase = .done ∧ sizes r = [(35, 2), (7, 1)] ∧ sizes r = sizes r' := by
  intro r r'
  have h0 : Pass.Alike sortedPass unsortedPass
      (Utf8.encode "/a|\x7b\"jcr:primaryType\":\"P\"\x7d\n")
      (Utf8.encode "/longest|\x7b\"type\":\"nam:Q\"\x7d\r\n") :=
    alike_of_ofRaw ⟨"/a", "P"⟩ ⟨"/longest", "Q"⟩ (by decide +kernel)
      (by decide +kernel) (by decide +kernel) (by decide +kernel) (by decide +kernel)
  have h1 : Pass.Alike sortedPass unsortedPass (Utf8.encode "/a/b|{}\n")
      (Utf8.encode "/x/y|{}\n") :=
    alike_of_ofRaw ⟨"/a/b", ""⟩ ⟨"/x/y", ""⟩ (by decide +kernel)
      (by decide +kernel) (by decide +kernel) (by decide +kernel) (by decide +kernel)
  have h2 : Pass.Alike sortedPass unsortedPass (Utf8.encode "/cd|{}\n")
      (Utf8.encode "/z|{}\r\n") :=
    alike_of_ofRaw ⟨"/cd", ""⟩ ⟨"/z", ""⟩ (by decide +kernel)
      (by decide +kernel) (by decide +kernel) (by decide +kernel) (by decide +kernel)
  have hl : List.Forall₂ (Pass.Alike sortedPass unsortedPass) sortedStream.lines
      unsortedStream.lines :=
    .cons h0 (.cons h1 (.cons h2 .nil))
  have hdone : r.phase = .done := by decide +kernel
  have hdone' : r'.phase = .done := by decide +kernel
  have hsizes : sizes r = [(35, 2), (7, 1)] := by decide +kernel
  exact ⟨hdone, hdone', hsizes,
    writeOut_sizes_of_alike _ _ _ _ _ _ rfl rfl hl hdone hdone'⟩

end Splitter

end SubtreePartition
