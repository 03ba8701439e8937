import SubtreePartition.Proofs.Fallible
import SubtreePartition.Proofs.Text.Feed
import SubtreePartition.Yaml.Document

namespace SubtreePartition.Yaml

variable {octets : Bytes} {t : Text} {f g : Feed}

namespace Source

theorem takes_opening (hb : f.IsBehind) (h : opening f = .ok (t, g)) :
    f.Takes (blockSize + blockSize) t g := by
  unfold opening at h
  obtain ⟨⟨first, f'⟩, hfirst, h⟩ := ok_of_bind h
  obtain ⟨⟨second, g'⟩, hsecond, h⟩ := ok_of_bind h
  cases h
  have htakes := Feed.take_ok hb hfirst
  exact htakes.append (Feed.take_ok htakes.behind hsecond) (by decide)

theorem ofOctets_of_not_isText (h : ¬ Utf8.IsText octets)
    (hlen : octets.length < blockSize + blockSize) :
    ∃ defect, ofOctets octets = ⟨[], some (.notUtf8 defect)⟩ := by
  unfold ofOctets
  split
  next defect _ => exact ⟨defect, rfl⟩
  next t g hopen =>
    exfalso
    have htakes := takes_opening (f := { octets }) rfl hopen
    have hroom : g.room + t.length ≤ octets.length := by
      simpa [Feed.room, Feed.held] using htakes.room
    rcases htakes.full with ht | ⟨hspent, -⟩
    · omega
    · apply h
      have hgives : g.Gives g.ready := hspent.gives_iff.mpr rfl
      exact Feed.exists_gives_iff (f := { octets }).mp ⟨_, (htakes.gives _).mpr ⟨_, rfl, hgives⟩⟩

end Source

namespace Lexer

theorem run_succ (unreadable : Option Fault) (fuel : Nat) (l : Lexer) :
    run unreadable (fuel + 1) l =
      match l.step with
      | .error stop => l.settled ++ [.fault (faultFor unreadable stop)]
      | .ok next =>
          match cutOff? unreadable next with
          | some fault => l.settled ++ [.fault fault]
          | none => if next.isFinished then next.settled else run unreadable fuel next :=
  -- Without the parentheses the equation would be tried for rewriting by unfolding every step.
  (rfl)

theorem exists_step_nil :
    ∃ next, step { cursor := { rest := [] } } = .ok next ∧ next.cursor.isAtEnd = true := by
  have h : (step { cursor := { rest := [] } }).toOption.any (·.cursor.isAtEnd) = true := by
    decide +kernel
  cases hs : step { cursor := { rest := [] } } with
  | error => rw [hs] at h; cases h
  | ok next => exact ⟨next, rfl, by rwa [hs] at h⟩

end Lexer

theorem Token.ofSource_nil (f : Fault) : ofSource ⟨[], some f⟩ = [.fault f] := by
  obtain ⟨next, hs, hend⟩ := Lexer.exists_step_nil
  have hcut : Lexer.cutOff? (some f) next = some f := if_pos hend
  change Lexer.run (some f) (0 + 1) { cursor := { rest := [] } } = _
  rw [Lexer.run_succ, hs]
  dsimp only
  rw [hcut]
  rfl

theorem read_of_not_isText (h : ¬ Utf8.IsText octets)
    (hlen : octets.length < Source.blockSize + Source.blockSize) (levels : Nat) :
    ∃ defect, read levels (.ofOctets octets) = .error (.notUtf8 defect) := by
  obtain ⟨defect, hs⟩ := Source.ofOctets_of_not_isText h hlen
  refine ⟨defect, ?_⟩
  rw [read, hs, Token.ofSource_nil]
  rfl

end SubtreePartition.Yaml
