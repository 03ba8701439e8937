import SubtreePartition.Proofs.Pass.Balance
import SubtreePartition.Proofs.Splitter.Run
import SubtreePartition.Proofs.Store.TrueSize

namespace SubtreePartition.Splitter

variable {s : Splitter} {p : Pass} {r : Run} {content : Bytes}

/-- A run over `content` with the pass `p` can cut wherever a partition has more than its share, and
makes even partitions where nothing is protected. -/
structure Balances (s : Splitter) (p : Pass) (r : Run) (content : Bytes) : Prop where
  accepts : (p.acceptAll (Store.lines content)).2 = none
  dealt : ∀ n, r.partitions = s.target.filledFrom 1
    (Pass.dealFrom p.planner (p.dealingAt (Store.lines content) n).closed
      (p.dealingAt (Store.lines content) n).draft ((p.acceptAll (Store.lines content)).1.drop n))
  room : ∀ n < (Store.lines content).length,
    content.length / s.settings.partitionCount.value <
        (p.dealingAt (Store.lines content) n).draft.size →
      (p.dealingAt (Store.lines content) n).draft.index < s.settings.partitionCount.value
  even :
    (∀ v ∈ p.visits (Store.lines content), ∀ c ∈ v.chain.categories.dropLast,
      p.planner.protectedSet.contains c = false) →
    ∀ q ∈ r.partitions,
      q.size ≤ content.length / s.settings.partitionCount.value +
        Pass.longest (Store.lines content)

theorem threshold_eq_div (ho : s.settings.thresholdOverride = none) (size : Nat) :
    threshold s.settings size = size / s.settings.partitionCount.value := by
  rw [threshold, ho, Option.getD_none]

theorem shares_sizedPass (ho : s.settings.thresholdOverride = none) (size : Nat) :
    (s.sizedPass size).planner.Shares size where
  one_le := Int.ofNat_le.mpr s.settings.partitionCount.one_le
  threshold := congrArg Int.ofNat (threshold_eq_div ho size)

theorem octets_lines (content : Bytes) : Pass.octets (Store.lines content) = content.length := by
  rw [Pass.octets_eq, Store.flatten_lines]

theorem octets_take_acceptAll (h : (p.acceptAll (Store.lines content)).2 = none) (n : Nat) :
    Pass.octets (((p.acceptAll (Store.lines content)).1.take n).map Item.raw) ≤
      content.length := by
  have hsplit := octets_lines content
  rw [← Pass.map_raw_visits h, ← Pass.map_raw_acceptAll,
    ← List.take_append_drop n (p.acceptAll (Store.lines content)).1, List.map_append,
    Pass.octets_append] at hsplit
  omega

theorem balances_of_shares (hs : p.planner.Shares content.length)
    (hc : p.planner.maxPartitions = s.settings.partitionCount.value)
    (ha : (p.acceptAll (Store.lines content)).2 = none)
    (hp : r.partitions =
      s.target.filledFrom 1 (Pass.deal p.planner (p.acceptAll (Store.lines content)).1)) :
    s.Balances p r content := by
  have hshare : p.planner.threshold =
      (content.length / s.settings.partitionCount.value : Nat) := by
    rw [hs.threshold, hc]
    rfl
  refine ⟨ha, fun n => ?_, fun n _ hpast => ?_, fun hfree q hq => ?_⟩
  · rw [Pass.dealFrom_dealingAt]
    exact hp
  · have hroom := Pass.Dealing.index_lt_of_past hs (octets_take_acceptAll ha n)
      (hshare ▸ Int.ofNat_lt.mpr hpast)
    rw [hc] at hroom
    exact Int.ofNat_lt.mp hroom
  · rw [hp] at hq
    obtain ⟨k, g, hg, rfl⟩ := Target.exists_filled_of_mem hq
    have hraw : (p.acceptAll (Store.lines content)).1.map Item.raw = Store.lines content := by
      rw [Pass.map_raw_acceptAll, Pass.map_raw_visits ha]
    have hlegal : ∀ item ∈ (p.acceptAll (Store.lines content)).1,
        p.planner.legal item.ancestors = true := by
      intro item hi
      rw [Pass.acceptAll_fst] at hi
      obtain ⟨v, hv, rfl⟩ := List.mem_map.mp hi
      exact Planner.legal_iff.mpr (hfree v hv)
    have hlong : ∀ item ∈ (p.acceptAll (Store.lines content)).1,
        item.raw.length ≤ Pass.longest (Store.lines content) :=
      fun item hi => Pass.length_le_longest (hraw ▸ List.mem_map_of_mem hi)
    have hle := Pass.octets_le_of_legal hs (by rw [hraw, octets_lines]) hlegal hlong hg
    rw [hshare, Pass.octets_eq] at hle
    exact Int.ofNat_le.mp hle

theorem run_balances (s : Splitter) (t : FileTree) (content : Bytes)
    (ho : s.settings.thresholdOverride = none) (hd : (s.run t).phase = .done) :
    (∀ bytes, t.read s.source = .ok bytes →
        Store.IsSingle s.settings.compression bytes content →
          Store.TellsSize s.settings.compression t s.source content) ∧
      (Store.TellsSize s.settings.compression t s.source content →
        s.Balances (s.sizedPass content.length) (s.run t) content) := by
  refine ⟨fun bytes => Store.tellsSize_of_isSingle, fun hsize => ?_⟩
  obtain ⟨size, t', bytes, hb⟩ := exists_begins_of_done hd
  obtain rfl : size = content.length := Except.ok.inj (hb.size.symm.trans hsize.states)
  have hlines : Store.stream s.loss s.settings.compression bytes = ⟨Store.lines content, none⟩ :=
    Store.stream_of_content? _ ((Store.contentAt_of_read hb.read).symm.trans hsize.reads)
  rw [hb.run_eq, hlines] at hd ⊢
  obtain ⟨-, haccepts, -⟩ := complete_of_done hd
  exact balances_of_shares (shares_sizedPass ho _) rfl haccepts (partitions_of_done hd)

def evenContent : Bytes :=
  Utf8.encode "/a|{}\n/b|{}\n/c|{}\n/d|{}"

def treeOfMember : FileTree :=
  { nodes := [(["store"], .file (Gzip.write evenContent))] }

def splitterOfMember : Splitter :=
  { source := ⟨1, ["store"]⟩
    settings :=
      { workDir := ⟨1, ["out"]⟩
        partitionCount := ⟨4, by decide⟩
        minSplitSize := 0 }
    boundaries := .fixed .empty }

theorem run_balances_member :
    (splitterOfMember.run treeOfMember).phase = .done ∧
      Store.TellsSize .gzip treeOfMember splitterOfMember.source evenContent ∧
      splitterOfMember.Balances (splitterOfMember.sizedPass evenContent.length)
        (splitterOfMember.run treeOfMember) evenContent ∧
      (splitterOfMember.run treeOfMember).partitions.map Partition.size = [6, 6, 6, 5] := by
  have hdone : (splitterOfMember.run treeOfMember).phase = .done := by decide +kernel
  have hread : treeOfMember.read splitterOfMember.source = .ok (Gzip.write evenContent) := by
    decide +kernel
  have hsingle : Store.IsSingle .gzip (Gzip.write evenContent) evenContent :=
    Store.isSingle_encode .gzip (by decide +kernel)
  obtain ⟨htells, hbalances⟩ := run_balances splitterOfMember treeOfMember evenContent rfl hdone
  have hsize := htells _ hread hsingle
  exact ⟨hdone, hsize, hbalances hsize, by decide +kernel⟩

end SubtreePartition.Splitter
