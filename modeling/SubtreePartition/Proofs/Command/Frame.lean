import SubtreePartition.Command.Run
import SubtreePartition.Proofs.Category.Outcome

namespace SubtreePartition.Command

variable {F : Frame}

structure Wishes.Describes (w : Wishes) (s : Settings) : Prop where
  count : (s.partitionCount.value : Int) = w.partitionCount
  least : (s.minSplitSize : Int) = w.minSplitSize
  threshold : s.thresholdOverride.map Int.ofNat = w.thresholdOverride
  rest : s =
    { workDir := w.workDir
      partitionCount := s.partitionCount
      minSplitSize := s.minSplitSize
      thresholdOverride := s.thresholdOverride
      compression := w.compression
      deleteSource := w.deleteSource
      strictOrder := w.strictOrder }

def errorLabel : Text := "Error:"

namespace Frame

/-- What the frame is documented to do. -/
structure IsDocumented (F : Frame) : Prop extends F.toLibrary.IsDocumented where
  configures {w : Wishes} {s : Settings} : F.configure w = .ok s ↔ w.Describes s
  misconfigured {w : Wishes} {e : F.Error} : F.configure w = .error e → F.kind e = .validation
  /-- The marks of a text are not shown, what stands between them is. -/
  labels {t : Text} {lines : List Text} : F.print (errorText t) = .ok lines →
    ∃ line rest, lines = line :: rest ∧ errorLabel <+: line
  /-- A wrong use has a code of its own. -/
  usage (message : Text) : ∃ complaint, F.close? (.usage message) = some ⟨2, complaint⟩
  /-- The end of a file is taken for a wish to stop. -/
  aborts {f : Failure F.toLibrary} : f.errorKind = .ended →
    ∃ complaint, F.close? (.raised f) = some ⟨1, complaint⟩
  leaves {f : Failure F.toLibrary} :
    f.errorKind ∈ [ErrorKind.document, .validation, .mismatch, .value, .other] →
      F.close? (.raised f) = none

end Frame

/-- How a command ends that comes to its end once all has been printed: by what cannot be printed, or
with `code`. -/
inductive EndsBy (code : Nat) (Raised : F.Error → Prop) : Ending F → Prop where
  | exit (h : ∀ e, ¬ Raised e) : EndsBy code Raised (.exit code)
  | left {e : F.Error} (h : Raised e) : EndsBy code Raised (F.endingOf (.raised (.printing e)))

theorem EndsBy.congr {code : Nat} {Raised Raised' : F.Error → Prop} {e : Ending F}
    (h : EndsBy code Raised e) (hr : ∀ e, Raised e ↔ Raised' e) : EndsBy code Raised' e :=
  (funext fun e => propext (hr e) : Raised = Raised') ▸ h

section Printing

variable {t : Text} {texts : List Text} {done : List Text} {code : Nat} {log : Log}
  {tree : FileTree}

theorem Frame.printAll_cases (F : Frame) (done texts : List Text) :
    (∃ lines, F.printAll done texts = (lines, none) ∧ ∀ e, ¬ ∃ t ∈ texts, F.print t = .error e) ∨
      ∃ lines e, F.printAll done texts = (lines, some e) ∧ ∃ t ∈ texts, F.print t = .error e := by
  induction texts generalizing done with
  | nil => exact .inl ⟨done, rfl, by simp⟩
  | cons t rest ih =>
    rw [Frame.printAll]
    cases ht : F.print t with
    | error e => exact .inr ⟨done, e, rfl, t, List.mem_cons_self, ht⟩
    | ok lines =>
      rcases ih (done ++ lines) with ⟨more, hp, hn⟩ | ⟨more, e, hp, u, hu, he⟩
      · refine .inl ⟨more, hp, ?_⟩
        rintro e ⟨u, hu, he⟩
        rcases List.mem_cons.mp hu with rfl | hu
        · rw [ht] at he
          cases he
        · exact hn e ⟨u, hu, he⟩
      · exact .inr ⟨more, e, hp, u, List.mem_cons_of_mem t hu, he⟩

namespace Report

theorem endsBy_print (code : Nat) (texts : List Text) (log : Log) (tree : FileTree) :
    EndsBy code (fun e => ∃ t ∈ texts, F.print t = .error e)
      (print code texts log tree : Report F).ending := by
  unfold print
  rcases F.printAll_cases [] texts with ⟨lines, hp, hn⟩ | ⟨lines, e, hp, he⟩
  · rw [hp]
    exact .exit hn
  · rw [hp]
    exact .left he

theorem endsBy_withTable (t : Table) (log : Log) (tree : FileTree) :
    EndsBy 0 (fun e => F.printTable t = .error e) (withTable t log tree : Report F).ending := by
  unfold withTable
  split
  next shown ht => exact .exit fun e he => by rw [ht] at he; cases he
  next e ht => exact .left ht

theorem lines_print {lines : List Text} (h : F.print t = .ok lines) :
    (print code [t] log tree : Report F).lines = lines := by
  simp [print, Frame.printAll, h]

end Report

end Printing

end SubtreePartition.Command
