import SubtreePartition.Command.Bundled
import SubtreePartition.Proofs.Category.Bundled
import SubtreePartition.Proofs.Command.Frame
import SubtreePartition.Proofs.Markup.Label

namespace SubtreePartition

open Datum Checked

section Numbers

theorem natural_integer_eq_ok_iff {n : Int} {k : Nat} :
    natural (.scalar (.integer n)) = .ok k ↔ (k : Int) = n := by
  have hnatural : natural (.scalar (.integer n)) = if n < 0 then fail .tooSmall else .ok n.toNat :=
    rfl
  rw [hnatural]
  split
  · exact ⟨nofun, fun h => by omega⟩
  · rw [Except.ok.injEq]
    omega

theorem optional_natural_eq_ok_iff {n? : Option Int} {k? : Option Nat} :
    Datum.optional natural ((n?.map fun n => .scalar (.integer n)).getD (.scalar .null)) = .ok k? ↔
      k?.map Int.ofNat = n? := by
  cases n? with
  | none => cases k? <;> simp [Datum.optional]
  | some n =>
    have hoptional : Datum.optional natural (.scalar (.integer n)) =
        (natural (.scalar (.integer n))).map some := rfl
    rw [Option.map_some, Option.getD_some, hoptional]
    cases k? with
    | none => cases natural (.scalar (.integer n)) <;> simp [Except.map]
    | some k =>
      rw [Option.map_some, Option.some_inj]
      refine Iff.trans ?_ natural_integer_eq_ok_iff
      cases natural (.scalar (.integer n)) <;> simp [Except.map]

theorem PartitionCount.check_integer_eq_ok_iff {n : Int} {c : PartitionCount} :
    check (.scalar (.integer n)) = .ok c ↔ (c.value : Int) = n := by
  have hc := c.one_le
  cases h : ofInt? n with
  | none =>
    simp only [check, integer, Except.bind, h]
    rw [ofInt?_eq_none_iff] at h
    exact ⟨nofun, fun hn => by omega⟩
  | some count =>
    simp only [check, integer, Except.bind, h]
    unfold ofInt? at h
    split at h
    next =>
      cases h
      rw [Except.ok.injEq, PartitionCount.mk.injEq]
      omega
    next => cases h

end Numbers

namespace Command

namespace Wishes

variable (w : Wishes)

def count : Checked PartitionCount :=
  withDefault "partition_count" .default PartitionCount.check w.members

def least : Checked Nat :=
  withDefault "min_split_size" (10 * 1024 * 1024) natural w.members

def threshold : Checked (Option Nat) :=
  withDefault "threshold_override" none (Datum.optional natural) w.members

variable {w} {s : Settings}

theorem count_eq_ok_iff {c : PartitionCount} :
    w.count = .ok c ↔ (c.value : Int) = w.partitionCount :=
  within_eq_ok_iff.trans PartitionCount.check_integer_eq_ok_iff

theorem least_eq_ok_iff {n : Nat} : w.least = .ok n ↔ (n : Int) = w.minSplitSize :=
  within_eq_ok_iff.trans natural_integer_eq_ok_iff

theorem threshold_eq_ok_iff {n? : Option Nat} :
    w.threshold = .ok n? ↔ n?.map Int.ofNat = w.thresholdOverride :=
  within_eq_ok_iff.trans optional_natural_eq_ok_iff

theorem check_members (w : Wishes) : Settings.check w.members =
    apply (apply (apply (.ok fun count least threshold =>
      { workDir := .parse w.workDir.text
        partitionCount := count
        minSplitSize := least
        thresholdOverride := threshold
        compression := w.compression
        deleteSource := w.deleteSource
        strictOrder := w.strictOrder }) w.count) w.least) w.threshold := by
  have hdir : required "work_dir" Settings.path w.members = .ok (.parse w.workDir.text) := rfl
  have hcompression (dflt) :
      withDefault "compression" dflt Compression.check w.members = .ok w.compression := by
    have hcheck : Compression.check (.ofText w.compression.text) = .ok w.compression := by
      cases w.compression <;> decide
    exact within_eq_ok_iff.mpr hcheck
  have hdelete (dflt) : withDefault "delete_original" dflt boolean w.members = .ok w.deleteSource :=
    rfl
  have hbase (dflt) :
      withDefault "base_category" dflt (Datum.optional text) w.members = .ok dflt := rfl
  have hstrict (dflt) : withDefault "strict_order" dflt boolean w.members = .ok w.strictOrder := rfl
  have hfield (dflt) : withDefault "category_field" dflt text w.members = .ok dflt := rfl
  simp only [Settings.check, hdir, hcompression, hdelete, hbase, hstrict, hfield]
  change apply (apply (apply (apply (apply (apply (apply (apply (apply _ _) w.count) w.least)
    w.threshold) _) _) _) _) _ = _
  cases w.count <;> cases w.least <;> cases w.threshold <;> rfl

end Wishes

namespace Frame

variable {ps : Markup.Pictographs} {w : Wishes} {s : Settings}

theorem bundled_configures : (bundled ps).configure w = .ok s ↔ w.Describes s := by
  change ((Settings.check w.members).mapError _).map _ = _ ↔ _
  rw [w.check_members]
  constructor
  · intro h
    obtain ⟨s', hs, rfl⟩ := ok_of_map h
    obtain ⟨_, threshold, hf, ht, rfl⟩ := apply_eq_ok_iff.mp (ok_of_mapError hs)
    obtain ⟨_, least, hf', hl, rfl⟩ := apply_eq_ok_iff.mp hf
    obtain ⟨_, count, hmk, hc, rfl⟩ := apply_eq_ok_iff.mp hf'
    cases hmk
    exact ⟨Wishes.count_eq_ok_iff.mp hc, Wishes.least_eq_ok_iff.mp hl,
      Wishes.threshold_eq_ok_iff.mp ht, rfl⟩
  · rintro ⟨hc, hl, ht, hs⟩
    rw [Wishes.count_eq_ok_iff.mpr hc, Wishes.least_eq_ok_iff.mpr hl,
      Wishes.threshold_eq_ok_iff.mpr ht]
    exact congrArg Except.ok hs.symm

theorem bundled_misconfigured {e : BundledFault} (h : (bundled ps).configure w = .error e) :
    e.errorKind = .validation := by
  change ((Settings.check w.members).mapError _).map _ = _ at h
  cases hc : Settings.check w.members with
  | ok s => rw [hc] at h; cases h
  | error issues =>
    rw [hc] at h
    cases h
    rfl

theorem bundled_labels {t : Text} {lines : List Text}
    (h : (bundled ps).print (errorText t) = .ok lines) :
    ∃ line rest, lines = line :: rest ∧ errorLabel <+: line := by
  obtain ⟨u, hu, rfl⟩ := ok_of_map h
  obtain ⟨shown, hshown, rfl⟩ := ok_of_map (ok_of_mapError hu)
  obtain ⟨v, rfl⟩ := prefix_of_plain_errorText hshown
  have htab : 9 ∉ errorLabel := by decide
  have hline : Text.lineFeed ∉ errorLabel := by decide
  obtain ⟨t, ht⟩ := Text.prefix_expandTabs htab v
  obtain ⟨first, rest, hr⟩ := List.exists_cons_of_ne_nil (Text.pieces_ne_nil Text.lineFeed t)
  refine ⟨errorLabel ++ first, rest, ?_, List.prefix_append _ _⟩
  have hpieces := Text.pieces_append hline hr
  rw [ht] at hpieces
  exact hpieces

theorem bundled_leaves {f : Failure Library.bundled}
    (hf : f.errorKind ∈ [ErrorKind.document, .validation, .mismatch, .value, .other]) :
    closingOf (.raised f) = none := by
  have hne : f.errorKind ≠ .ended := by
    rintro he
    rw [he] at hf
    simp at hf
  exact if_neg hne

theorem bundled_isDocumented (ps : Markup.Pictographs) : (bundled ps).IsDocumented where
  toIsDocumented := Library.bundled_isDocumented
  configures := bundled_configures
  misconfigured := bundled_misconfigured
  labels := bundled_labels
  usage message := ⟨[message], rfl⟩
  aborts hf := ⟨["", "Aborted."], if_pos hf⟩
  leaves := bundled_leaves

end Frame

end Command

end SubtreePartition
