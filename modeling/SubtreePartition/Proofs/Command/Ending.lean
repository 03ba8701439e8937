import SubtreePartition.Proofs.Command.Bundled
import SubtreePartition.Proofs.Record.Outcome
import SubtreePartition.Proofs.Worker.Phases

namespace SubtreePartition.Command

variable {F : Frame} {m : Medium} {files : FileTree} {r : SplitRequest} {x : Reply}
  {c : Command} {f : Failure F.toLibrary}

def IsShallow (loss : Gzip.Loss) (files : FileTree) : Command → Prop
  | .split r => ∀ bytes, files.read r.source = .ok bytes →
      ∀ raw ∈ (Store.stream loss r.compression bytes).lines,
        Record.IsShallow (Record.decodeLine raw)
  | _ => True

inductive SplitRequest.Loads (L : Library) (files : FileTree) (r : SplitRequest) :
    Boundaries → Prop where
  | fixed (hi : r.indexes = none) : Loads L files r (.fixed .empty)
  | derived {hierarchy indexes : FilePath} {resolver : Resolver} {log : Log}
      (hh : r.hierarchy = some hierarchy) (hi : r.indexes = some indexes)
      (hl : loadResolver L files hierarchy indexes = (.ok resolver, log)) :
      Loads L files r (.derived resolver)

inductive SplitRequest.Gets (F : Frame) (m : Medium) (files : FileTree) (r : SplitRequest) :
    Reply → Prop where
  | intro {s : Settings} {b : Boundaries} (hs : r.settings F = .ok s)
      (hb : r.Loads F.toLibrary files b) :
      Gets F m files r ((Worker.new ⟨r.source, s, b, F.loss⟩).split m files)

inductive FailsWith (F : Frame) (m : Medium) (files : FileTree) :
    Command → Failure F.toLibrary → Prop where
  | partitionCount {r : SplitRequest} (hn : r.partitions < 1) :
      FailsWith F m files (.split r) (.partitionCount r.partitions)
  | settings {r : SplitRequest} {e : F.Error} (hn : 1 ≤ r.partitions)
      (he : F.configure r.wishes = .error e) : FailsWith F m files (.split r) (.settings e)
  | loading {r : SplitRequest} {s : Settings} {hierarchy indexes : FilePath}
      {failure : LoadFailure F.toLibrary} {log : Log} (hs : r.settings F = .ok s)
      (hh : r.hierarchy = some hierarchy) (hi : r.indexes = some indexes)
      (hl : loadResolver F.toLibrary files hierarchy indexes = (.error failure, log)) :
      FailsWith F m files (.split r) (.load failure)
  | splitting {r : SplitRequest} {x : Reply} {fault : SplitFault} (hx : r.Gets F m files x)
      (ho : x.1 = .error fault) : FailsWith F m files (.split r) (.split r.source fault)
  | categories {hierarchy indexes : FilePath} {failure : LoadFailure F.toLibrary} {log : Log}
      (hl : loadResolver F.toLibrary files hierarchy indexes = (.error failure, log)) :
      FailsWith F m files (.categories hierarchy indexes) (.load failure)

/-- The failures that leave a command as they are. Splitting looks for neither end of compressed data
that cannot be read, and showing categories for no failure but those of the configuration. -/
inductive Escapes : Command → Failure F.toLibrary → Prop where
  | broken {r : SplitRequest} {source : FilePath} : Escapes (.split r) (.split source (.stream .ended))
  | corrupt {r : SplitRequest} {source : FilePath} :
      Escapes (.split r) (.split source (.stream .corrupt))
  | loading {r : SplitRequest} {kind : DocumentKind} {file : FilePath} {e : F.Error}
      (hk : F.kind e ∈ [ErrorKind.ended, .other]) :
      Escapes (.split r) (.load ⟨kind, file, .raised e⟩)
  | categories {hierarchy indexes : FilePath} {kind : DocumentKind} {file : FilePath} {e : F.Error}
      (hk : F.kind e ∈ [ErrorKind.value, .ended, .other]) :
      Escapes (.categories hierarchy indexes) (.load ⟨kind, file, .raised e⟩)
  | path {hierarchy indexes : FilePath} {kind : DocumentKind} {file : FilePath} {fault : FileFault}
      (hs : fault.isSystem = false) :
      Escapes (.categories hierarchy indexes) (.load ⟨kind, file, .unreadable fault⟩)

def LacksHierarchy : Command → Prop
  | .split r => r.hierarchy = none ∧ r.indexes ≠ none
  | _ => False

inductive Unshown (F : Frame) (m : Medium) (files : FileTree) : Command → F.Error → Prop where
  | skipped {r : SplitRequest} {x : Reply} {e : F.Error} (hx : r.Gets F m files x)
      (ho : x.1 = .ok [r.source]) (hp : F.print (skippedText [r.source]) = .error e) :
      Unshown F m files (.split r) e
  | split {r : SplitRequest} {x : Reply} {paths : List FilePath} {e : F.Error}
      (hx : r.Gets F m files x) (ho : x.1 = .ok paths) (hn : paths ≠ [r.source])
      (hp : F.printTable (partitionTable r x.2.worker.partitions) = .error e) :
      Unshown F m files (.split r) e
  | categories {hierarchy indexes : FilePath} {resolver : Resolver} {log : Log} {t : Text}
      {e : F.Error} (hl : loadResolver F.toLibrary files hierarchy indexes = (.ok resolver, log))
      (ht : t ∈ resolver.resolve.1.names ++ [countText resolver.resolve.1])
      (hp : F.print t = .error e) : Unshown F m files (.categories hierarchy indexes) e
  | version {e : F.Error} (hp : F.print (Text.join [programName, " ", programVersion]) = .error e) :
      Unshown F m files .version e

/-- How a command has to end, whatever it comes to. -/
structure Accounts (F : Frame) (m : Medium) (files : FileTree) (c : Command) (r : Report F) :
    Prop where
  error {f : Failure F.toLibrary} (hf : FailsWith F m files c f) (hc : ¬ Escapes c f) :
    EndsBy 1 (fun e => F.print (errorText f.message) = .error e) r.ending ∧
      ∀ lines, F.print (errorText f.message) = .ok lines →
        ∃ line rest, r.lines = line :: rest ∧ errorLabel <+: line
  escape {f : Failure F.toLibrary} (hf : FailsWith F m files c f) (hc : Escapes c f) :
    r.lines = [] ∧
      if f.errorKind = .ended then r.ending = .exit 1 else r.ending = .escape (.raised f)
  usage (hn : ∀ f, ¬ FailsWith F m files c f) (hl : c.LacksHierarchy) : r.ending = .exit 2
  done (hn : ∀ f, ¬ FailsWith F m files c f) (hl : ¬ c.LacksHierarchy) :
    EndsBy 0 (Unshown F m files c) r.ending

section Requests

theorem SplitRequest.failsWith_of_settings (h : r.settings F = .error f) :
    FailsWith F m files (.split r) f := by
  unfold settings at h
  split at h
  next hc =>
    cases h
    exact .partitionCount (PartitionCount.ofInt?_eq_none_iff.mp hc)
  next count hc =>
    have hn : 1 ≤ r.partitions := by
      by_contra hn
      rw [PartitionCount.ofInt?_eq_none_iff.mpr (by omega)] at hc
      cases hc
    cases he : F.configure r.wishes with
    | ok s => rw [he] at h; cases h
    | error e =>
      rw [he] at h
      cases h
      exact .settings hn he

theorem SplitRequest.Loads.unique {L : Library} {b b' : Boundaries} (h : r.Loads L files b)
    (h' : r.Loads L files b') : b = b' := by
  cases h with
  | fixed hi =>
    cases h' with
    | fixed => rfl
    | derived _ hi' => simp [hi] at hi'
  | derived hh hi hl =>
    cases h' with
    | fixed hi' => simp [hi] at hi'
    | derived hh' hi' hl' =>
      cases hh.symm.trans hh'
      cases hi.symm.trans hi'
      cases hl.symm.trans hl'
      rfl

theorem SplitRequest.Gets.unique {y : Reply} (hx : r.Gets F m files x) (hy : r.Gets F m files y) :
    x = y := by
  obtain ⟨hs, hb⟩ := hx
  obtain ⟨hs', hb'⟩ := hy
  cases hs.symm.trans hs'
  cases hb.unique hb'
  rfl

theorem SplitRequest.Gets.run_eq (hx : r.Gets F m files x) :
    ∃ log, (run m (.split r) files : Report F) = reportReply r log x := by
  obtain ⟨hs, hi | ⟨hh, hi, hl⟩⟩ := hx
  · simp only [run, runSplit, hs, hi]
    exact ⟨_, rfl⟩
  · simp only [run, runSplit, hs, hh, hi, hl]
    exact ⟨_, rfl⟩

theorem SplitRequest.Gets.skip_iff (hx : r.Gets F m files x) :
    x.2.worker.phase = .skip ↔ x.1 = .ok [r.source] := by
  cases hx with
  | intro => exact (Worker.split_keepsToPhases m _ files).skip_iff

theorem SplitRequest.exists_gets (hn : ∀ f, ¬ FailsWith F m files (.split r) f)
    (hl : ¬ LacksHierarchy (.split r)) : ∃ x, r.Gets F m files x := by
  cases hs : r.settings F with
  | error f => exact absurd (failsWith_of_settings hs) (hn f)
  | ok s =>
    cases hi : r.indexes with
    | none => exact ⟨_, .intro hs (.fixed hi)⟩
    | some indexes =>
      cases hh : r.hierarchy with
      | none => exact absurd ⟨hh, by simp [hi]⟩ hl
      | some hierarchy =>
        match hl : loadResolver F.toLibrary files hierarchy indexes with
        | (.error failure, log) => exact absurd (.loading hs hh hi hl) (hn _)
        | (.ok resolver, log) => exact ⟨_, .intro hs (.derived hh hi hl)⟩

end Requests

section Failures

theorem run_of_failsWith (hf : FailsWith F m files c f) :
    ∃ log tree, (run m c files : Report F) = fail c f log tree := by
  cases hf with
  | @partitionCount r hn =>
    have hs : r.settings F = .error (.partitionCount r.partitions) := by
      rw [SplitRequest.settings, PartitionCount.ofInt?_eq_none_iff.mpr hn]
    exact ⟨[], files, by simp only [run, runSplit, hs]⟩
  | @settings r e hn he =>
    have hs : r.settings F = .error (.settings e) := by
      unfold SplitRequest.settings
      split
      next hc => rw [PartitionCount.ofInt?_eq_none_iff] at hc; omega
      next => rw [he]; rfl
    exact ⟨[], files, by simp only [run, runSplit, hs]⟩
  | @loading r s hierarchy indexes failure log hs hh hi hl =>
    exact ⟨log.shown r.verbose, files, by simp only [run, runSplit, hs, hh, hi, hl]⟩
  | @splitting r x fault hx ho =>
    obtain ⟨log, hlog⟩ := hx.run_eq
    obtain ⟨result, y⟩ := x
    cases ho
    exact ⟨log, y.tree, hlog⟩
  | categories hl => exact ⟨[], files, by simp only [run, runCategories, hl]⟩

theorem errorKind_load_raised {kind : DocumentKind} {file : FilePath} {e : F.Error} :
    (Failure.load ⟨kind, file, .raised e⟩ : Failure F.toLibrary).errorKind =
      if (F.kind e).isConfiguration then .own else F.kind e :=
  rfl

theorem errorKind_load_unreadable {kind : DocumentKind} {file : FilePath} {fault : FileFault} :
    (Failure.load ⟨kind, file, .unreadable fault⟩ : Failure F.toLibrary).errorKind =
      if fault.isSystem then .own else .value := by
  cases hs : fault.isSystem <;>
    simp [Failure.errorKind, LoadFailure.errorKind, LoadFault.isConfiguration,
      LoadFault.errorKind, FileFault.errorKind, hs, ErrorKind.isConfiguration]

theorem errorKind_of_escapes (hc : Escapes c f) :
    c.catches f.errorKind = false ∧ f.errorKind ∈ [ErrorKind.ended, .value, .other] := by
  cases hc with
  | broken => exact ⟨rfl, List.mem_cons_self⟩
  | corrupt => exact ⟨rfl, List.mem_of_mem_getLast? rfl⟩
  | @loading r kind file e hk =>
    rw [errorKind_load_raised]
    revert hk
    cases F.kind e <;> simp [ErrorKind.isConfiguration, catches]
  | @categories hierarchy indexes kind file e hk =>
    rw [errorKind_load_raised]
    revert hk
    cases F.kind e <;> simp [ErrorKind.isConfiguration, catches]
  | @path hierarchy indexes kind file fault hs =>
    rw [errorKind_load_unreadable, hs]
    exact ⟨rfl, by decide⟩

theorem catches_of_loading {failure : LoadFailure F.toLibrary}
    (hc : ¬ Escapes (.split r) (.load failure)) :
    (Command.split r).catches (Failure.load failure).errorKind = true := by
  obtain ⟨kind, file, fault⟩ := failure
  cases fault with
  | unreadable fault =>
    rw [errorKind_load_unreadable]
    cases fault.isSystem <;> rfl
  | notAMapping => rfl
  | raised e =>
    have hk : F.kind e ∉ [ErrorKind.ended, .other] := fun hk => hc (.loading hk)
    rw [errorKind_load_raised]
    revert hk
    cases F.kind e <;> simp [ErrorKind.isConfiguration, catches]

theorem catches_of_categories {hierarchy indexes : FilePath} {failure : LoadFailure F.toLibrary}
    (hc : ¬ Escapes (.categories hierarchy indexes) (.load failure)) :
    (Command.categories hierarchy indexes).catches (Failure.load failure).errorKind = true := by
  obtain ⟨kind, file, fault⟩ := failure
  cases fault with
  | unreadable fault =>
    rw [errorKind_load_unreadable]
    cases hs : fault.isSystem with
    | true => rfl
    | false => exact absurd (.path hs) hc
  | notAMapping => rfl
  | raised e =>
    have hk : F.kind e ∉ [ErrorKind.value, .ended, .other] := fun hk => hc (.categories hk)
    rw [errorKind_load_raised]
    revert hk
    cases F.kind e <;> simp [ErrorKind.isConfiguration, catches]

theorem catches_of_splitting {source : FilePath} {fault : SplitFault}
    (hc : ¬ Escapes (.split r) (.split source fault : Failure F.toLibrary)) :
    (Command.split r).catches fault.errorKind = true := by
  have haccess : ∀ fault : FileFault, (Command.split r).catches fault.errorKind = true := by
    intro fault
    unfold FileFault.errorKind
    cases fault.isSystem <;> rfl
  rcases fault with ⟨path, fault⟩ | fault | rejection | fault | ⟨path, refusal⟩
  · exact haccess fault
  · rcases fault with fault | - | -
    · exact haccess fault
    · rfl
    · rfl
  · rcases rejection with (- | -) | -
    all_goals rfl
  · cases fault with
    | ended => exact absurd .broken hc
    | corrupt => exact absurd .corrupt hc
    | _ => rfl
  · rfl

theorem catches_of_failsWith (hF : F.IsDocumented) (hf : FailsWith F m files c f)
    (hc : ¬ Escapes c f) : c.catches f.errorKind = true := by
  cases hf with
  | partitionCount => rfl
  | @settings r e hn he =>
    have hkind : (Failure.settings e : Failure F.toLibrary).errorKind = .validation :=
      hF.misconfigured he
    rw [hkind]
    rfl
  | loading => exact catches_of_loading hc
  | splitting => exact catches_of_splitting hc
  | categories => exact catches_of_categories hc

theorem endingOf_of_escapes (hF : F.IsDocumented) (hc : Escapes c f) :
    if f.errorKind = .ended then F.endingOf (.raised f) = .exit 1
    else F.endingOf (.raised f) = .escape (.raised f) := by
  have hkind := (errorKind_of_escapes hc).2
  split
  next he =>
    obtain ⟨complaint, hclose⟩ := hF.aborts he
    simp only [Frame.endingOf, hclose]
  next he =>
    have hleaves : f.errorKind ∈ [ErrorKind.document, .validation, .mismatch, .value, .other] := by
      revert hkind he
      cases f.errorKind <;> simp
    simp only [Frame.endingOf, hF.leaves hleaves]

theorem ending_run_of_lacksHierarchy (hF : F.IsDocumented)
    (hn : ∀ f, ¬ FailsWith F m files c f) (hl : c.LacksHierarchy) :
    (run m c files : Report F).ending = .exit 2 := by
  cases c with
  | split r =>
    obtain ⟨hh, hi⟩ := hl
    obtain ⟨indexes, hi⟩ := Option.ne_none_iff_exists'.mp hi
    cases hs : r.settings F with
    | error f => exact absurd (SplitRequest.failsWith_of_settings hs) (hn f)
    | ok s =>
      obtain ⟨complaint, hclose⟩ := hF.usage lacksHierarchy
      simp only [run, runSplit, hs, hh, hi, Report.left, Frame.endingOf, hclose]
  | _ => exact hl.elim

end Failures

section Ends

theorem reportReply_ok (r : SplitRequest) (log : Log) (paths : List FilePath) (y : Call) :
    (reportReply r log (.ok paths, y) : Report F) =
      if y.worker.phase = .skip then .print 0 [skippedText paths] log y.tree
      else .withTable (partitionTable r y.worker.partitions) log y.tree :=
  rfl

theorem endsBy_run_split (hn : ∀ f, ¬ FailsWith F m files (.split r) f)
    (hl : ¬ LacksHierarchy (.split r)) :
    EndsBy 0 (Unshown F m files (.split r)) (run m (.split r) files : Report F).ending := by
  obtain ⟨x, hx⟩ := SplitRequest.exists_gets hn hl
  obtain ⟨log, hlog⟩ := hx.run_eq
  have hskip := hx.skip_iff
  obtain ⟨result, y⟩ := x
  rw [hlog]
  cases result with
  | error fault => exact absurd (.splitting hx rfl) (hn _)
  | ok paths =>
    rw [reportReply_ok]
    by_cases hp : y.worker.phase = .skip
    · obtain rfl : paths = [r.source] := Except.ok.inj (hskip.mp hp)
      rw [if_pos hp]
      refine (Report.endsBy_print ..).congr fun e => ?_
      simp only [List.mem_singleton, exists_eq_left]
      constructor
      · exact .skipped hx rfl
      · rintro (⟨hx', ho, he⟩ | ⟨hx', ho, hne, he⟩)
        · exact he
        · cases hx.unique hx'
          cases ho
          exact absurd rfl hne
    · have hne : paths ≠ [r.source] := fun he => hp (hskip.mpr (congrArg _ he))
      rw [if_neg hp]
      refine (Report.endsBy_withTable ..).congr fun e => ?_
      constructor
      · exact .split hx rfl hne
      · rintro (⟨hx', ho, he⟩ | ⟨hx', ho, -, he⟩)
        · cases hx.unique hx'
          exact absurd (Except.ok.inj ho) hne
        · cases hx.unique hx'
          exact he

theorem endsBy_run_categories {hierarchy indexes : FilePath}
    (hn : ∀ f, ¬ FailsWith F m files (.categories hierarchy indexes) f) :
    EndsBy 0 (Unshown F m files (.categories hierarchy indexes))
      (run m (.categories hierarchy indexes) files : Report F).ending := by
  match hl : loadResolver F.toLibrary files hierarchy indexes with
  | (.error failure, log) => exact absurd (.categories hl) (hn _)
  | (.ok resolver, log) =>
    simp only [run, runCategories, hl]
    refine (Report.endsBy_print ..).congr fun e => ⟨?_, ?_⟩
    · rintro ⟨t, ht, hp⟩
      exact .categories hl ht hp
    · intro h
      cases h with
      | categories hl' ht hp =>
        cases hl.symm.trans hl'
        exact ⟨_, ht, hp⟩

theorem endsBy_run_version (m : Medium) (files : FileTree) :
    EndsBy 0 (Unshown F m files .version) (run m .version files : Report F).ending := by
  refine (Report.endsBy_print ..).congr fun e => ?_
  simp only [List.mem_singleton, exists_eq_left]
  exact ⟨.version, fun h => by cases h; assumption⟩

end Ends

/-- A command reports every failure but those that it does not look for, and ends as it should. -/
theorem run_accounts (hF : F.IsDocumented) (m : Medium) (files : FileTree) (c : Command)
    (_ : c.IsShallow F.loss files) : Accounts F m files c (run m c files) where
  error hf hc := by
    obtain ⟨log, tree, h⟩ := run_of_failsWith hf
    have hcatches := catches_of_failsWith hF hf hc
    rw [h, fail, if_pos hcatches]
    refine ⟨(Report.endsBy_print ..).congr fun e => by simp, fun lines hp => ?_⟩
    rw [Report.lines_print hp]
    exact hF.labels hp
  escape hf hc := by
    obtain ⟨log, tree, h⟩ := run_of_failsWith hf
    have hcatches := (errorKind_of_escapes hc).1
    rw [h, fail, hcatches]
    exact ⟨rfl, endingOf_of_escapes hF hc⟩
  usage := ending_run_of_lacksHierarchy hF
  done hn hl := by
    cases c with
    | split r => exact endsBy_run_split hn hl
    | categories hierarchy indexes => exact endsBy_run_categories hn
    | version => exact endsBy_run_version m files
    | help => exact .exit fun e h => nomatch h

section Corrupt

def corruptBytes : Bytes :=
  [0x1F, 0x8B, 8, 0, 0, 0, 0, 0, 0, 0] ++ List.replicate 12 7

def corrupt : FileTree := { nodes := [(["s.gz"], .file corruptBytes)] }

def corruptLine : List Text := ["split", "/s.gz", "--min-size", "0"]

def corruptRequest : SplitRequest := { source := .parse "/s.gz", partitions := 8, minSize := 0 }

def corruptSettings : Settings :=
  { workDir := .parse "/split", minSplitSize := 0 }

def corruptFailure {L : Library} : Failure L :=
  .split (.parse "/s.gz") (.stream .corrupt)

def corruptFrame : Frame := .bundled fun _ => none

theorem failsWith_corrupt :
    FailsWith corruptFrame .sound corrupt (.split corruptRequest) corruptFailure := by
  have hF : corruptFrame.IsDocumented := Frame.bundled_isDocumented _
  have hdescribes : corruptRequest.wishes.Describes corruptSettings :=
    ⟨by decide, by decide, by decide, by decide +kernel⟩
  have hs : corruptRequest.settings corruptFrame = .ok corruptSettings := by
    have hconfigure := hF.configures.mpr hdescribes
    have hcount : PartitionCount.ofInt? corruptRequest.partitions = some .default := by decide
    rw [SplitRequest.settings, hcount, hconfigure]
    rfl
  have ho : ((Worker.new ⟨corruptRequest.source, corruptSettings, .fixed .empty, .nothing⟩).split
      .sound corrupt).1 = .error (.stream .corrupt) := by
    decide +kernel
  exact .splitting (.intro hs (.fixed rfl)) ho

theorem isShallow_corrupt : (Command.split corruptRequest).IsShallow .nothing corrupt := by
  intro bytes hr raw hraw
  have hread : corrupt.read corruptRequest.source = .ok corruptBytes := by decide +kernel
  cases hread.symm.trans hr
  have hlines : (Store.stream .nothing .gzip corruptBytes).lines = [] := by decide +kernel
  have hmem : raw ∈ (Store.stream .nothing .gzip corruptBytes).lines := hraw
  rw [hlines] at hmem
  cases hmem

theorem run_accounts_corrupt :
    corruptFrame.IsDocumented ∧ (Command.split corruptRequest).IsShallow .nothing corrupt ∧
      (run .sound (.split corruptRequest) corrupt : Report corruptFrame).ending =
        .escape (.raised corruptFailure) := by
  have hF : corruptFrame.IsDocumented := Frame.bundled_isDocumented _
  have h := run_accounts hF .sound corrupt (.split corruptRequest) isShallow_corrupt
  exact ⟨hF, isShallow_corrupt, (h.escape failsWith_corrupt .corrupt).2⟩

theorem not_exit_corrupt :
    (parse? corrupt corruptLine).isSome ∧
      ∀ code, (runLine (fun _ => none) .sound corruptLine corrupt).ending ≠ .exit code := by
  have hparse : parse? corrupt corruptLine = some (.split corruptRequest) := by decide +kernel
  refine ⟨by rw [hparse]; rfl, fun code he => ?_⟩
  obtain ⟨log, tree, h⟩ := run_of_failsWith failsWith_corrupt
  rw [runLine, hparse] at he
  dsimp only at he
  rw [corruptFrame] at h
  rw [h] at he
  cases he

end Corrupt

end SubtreePartition.Command
