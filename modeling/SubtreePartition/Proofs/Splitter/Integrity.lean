import SubtreePartition.Proofs.Pass.Preorder
import SubtreePartition.Proofs.Pass.ProtectedRun
import SubtreePartition.Proofs.Splitter.Run

namespace SubtreePartition.Splitter

variable {lines : Store.Stream} {i j : Nat} {r q : Record}

/-- Two lines go to one partition, as they are dealt out and in every run that writes them. A run
that opens all its partitions does write them. -/
structure Together (p : Pass) (lines : Store.Stream) (i j : Nat) : Prop where
  dealt : ∃ k, dealtTo p lines i = some k ∧ dealtTo p lines j = some k
  written : ∀ (s : Splitter) (t : FileTree) (log : Log),
    Partition.holder (s.writeOut t log p lines).partitions j =
      Partition.holder (s.writeOut t log p lines).partitions i
  held : ∀ (s : Splitter) (t : FileTree) (log : Log), s.OpensAll (s.writeOut t log p lines) →
    ∃ k, Partition.holder (s.writeOut t log p lines).partitions i = some k ∧
      Partition.holder (s.writeOut t log p lines).partitions j = some k

theorem together_of_dealtTo_eq {p : Pass} (hi : i < (p.acceptAll lines.lines).1.length)
    (h : dealtTo p lines j = dealtTo p lines i) : Together p lines i j := by
  obtain ⟨k, hk⟩ := exists_dealtTo hi
  refine ⟨⟨k, hk, h.trans hk⟩, fun s t log => ?_, fun s t log ho => ⟨k, ?_, ?_⟩⟩
  · obtain ⟨count, hh⟩ := s.holder_writeOut t log p lines
    rw [hh, hh]
    exact congrArg _ h
  · rw [holder_of_opensAll ho, hk]
  · rw [holder_of_opensAll ho, h, hk]

theorem together_of_protected_run (p : Pass) (hij : i ≤ j)
    (hj : j < (p.acceptAll lines.lines).1.length) (hr : p.recordAt lines.lines i = some r)
    (hd : 1 ≤ r.depth) (hc : p.planner.protectedSet.contains r.category = true)
    (hdeep : ∀ k r', i < k → k ≤ j → p.recordAt lines.lines k = some r' → r.depth < r'.depth) :
    Together p lines i j := by
  have heq := Pass.blockOf_eq_of_protected_run hij hj hr hd hc hdeep
  exact together_of_dealtTo_eq (Nat.lt_of_le_of_lt hij hj) heq

def protectedLine : Bytes :=
  Utf8.encode "/a|\x7b\"jcr:primaryType\":\"P\"\x7d\n"

def jumpingLines : Store.Stream :=
  ⟨[protectedLine, Utf8.encode "/a/b/c|{}\n", Utf8.encode "/b/c|{}\n", Utf8.encode "/d|{}\n"],
    none⟩

def protectingPass (mode : OrderMode) : Pass :=
  ⟨mode, Record.defaultField, ⟨.ofList ["P"], 0, 10⟩⟩

theorem together_of_protected_run_jumping :
    let p := protectingPass .lenient
    2 < (p.acceptAll jumpingLines.lines).1.length ∧
      p.recordAt jumpingLines.lines 0 = some ⟨"/a", "P"⟩ ∧ Together p jumpingLines 0 2 := by
  intro p
  have hlen : 2 < (p.acceptAll jumpingLines.lines).1.length := by decide +kernel
  have h0 : p.recordAt jumpingLines.lines 0 = some ⟨"/a", "P"⟩ := by decide +kernel
  have h1 : p.recordAt jumpingLines.lines 1 = some ⟨"/a/b/c", ""⟩ := by decide +kernel
  have h2 : p.recordAt jumpingLines.lines 2 = some ⟨"/b/c", ""⟩ := by decide +kernel
  refine ⟨hlen, h0, together_of_protected_run p (by decide) hlen h0 ?_ ?_ ?_⟩
  · decide +kernel
  · decide +kernel
  · intro k r' hk hk2 hr
    obtain rfl | rfl : k = 1 ∨ k = 2 := by omega
    · obtain rfl := Option.some.inj (h1.symm.trans hr)
      decide +kernel
    · obtain rfl := Option.some.inj (h2.symm.trans hr)
      decide +kernel

theorem together_of_isBelow (p : Pass) (hm : p.mode = .strict)
    (ha : (p.acceptAll lines.lines).2 = none)
    (hu : ((p.records lines.lines).map Record.segments).Nodup)
    (hr : p.recordAt lines.lines i = some r) (hd : 1 ≤ r.depth)
    (hc : p.planner.protectedSet.contains r.category = true)
    (hq : p.recordAt lines.lines j = some q) (hb : q.IsBelow r) :
    i < j ∧ (∀ k, i < k → k ≤ j → ∃ q', p.recordAt lines.lines k = some q' ∧ q'.IsBelow r) ∧
      Together p lines i j := by
  have hlen := Pass.length_acceptAll ha
  have hlt := Pass.lt_length_of_recordAt hq
  rw [← Pass.map_record_visits ha, List.map_map] at hu
  obtain ⟨v, hv, rfl⟩ := Pass.exists_visit (by have := Pass.lt_length_of_recordAt hr; omega) hr
  obtain ⟨w, hw, rfl⟩ := Pass.exists_visit (by omega) hq
  obtain ⟨hij, hall⟩ := Pass.isBelow_run hm hu hv hd hw hb
  have hbelow : ∀ k, i < k → k ≤ j →
      ∃ q', p.recordAt lines.lines k = some q' ∧ q'.IsBelow v.record := by
    intro k hk hkj
    have hlen' := Pass.length_visits p lines.lines
    have hu := List.getElem?_eq_getElem (show k < (p.visits lines.lines).length by omega)
    exact ⟨_, Pass.recordAt_of_visit hu, hall k _ hk hkj hu⟩
  refine ⟨hij, hbelow, together_of_dealtTo_eq (by omega) ?_⟩
  refine Pass.blockOf_eq_of_protected_run (Nat.le_of_lt hij) (by omega) hr hd hc ?_
  intro k r' hk hkj hr'
  obtain ⟨q', hq', hbq⟩ := hbelow k hk hkj
  obtain rfl := Option.some.inj (hq'.symm.trans hr')
  exact hbq.depth_lt

def nestedLines : Store.Stream :=
  ⟨[protectedLine, Utf8.encode "/a/b|{}\n", Utf8.encode "/a/b/c|{}\n", Utf8.encode "/d|{}\n"],
    none⟩

theorem together_of_isBelow_nested :
    let p := protectingPass .strict
    p.recordAt nestedLines.lines 0 = some ⟨"/a", "P"⟩ ∧
      p.recordAt nestedLines.lines 2 = some ⟨"/a/b/c", ""⟩ ∧ Together p nestedLines 0 2 := by
  intro p
  have ha : (p.acceptAll nestedLines.lines).2 = none := by decide +kernel
  have hu : ((p.records nestedLines.lines).map Record.segments).Nodup := by decide +kernel
  have h0 : p.recordAt nestedLines.lines 0 = some ⟨"/a", "P"⟩ := by decide +kernel
  have h2 : p.recordAt nestedLines.lines 2 = some ⟨"/a/b/c", ""⟩ := by decide +kernel
  have hd : 1 ≤ (⟨"/a", "P"⟩ : Record).depth := by decide +kernel
  have hc : p.planner.protectedSet.contains "P" = true := by decide +kernel
  have hb : (⟨"/a/b/c", ""⟩ : Record).IsBelow ⟨"/a", "P"⟩ := by
    constructor
    · decide +kernel
    · decide +kernel
  exact ⟨h0, h2, (together_of_isBelow p rfl ha hu h0 hd hc h2 hb).2.2⟩

end SubtreePartition.Splitter
