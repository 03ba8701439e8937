import SubtreePartition.Command.Report
import SubtreePartition.Markup.Basic
import SubtreePartition.Proofs.Fallible
import SubtreePartition.Proofs.Text.Basic
import SubtreePartition.Text.Width

namespace SubtreePartition

namespace Text

theorem prefix_expandTabsFrom (done : Text) (column : Nat) (t : Text) :
    done.reverse <+: expandTabsFrom done column t := by
  fun_induction expandTabsFrom done column t with
  | case1 => exact List.prefix_rfl
  | case2 _ _ _ _ ih =>
    rw [List.reverse_append] at ih
    exact (List.prefix_append _ _).trans ih
  | case3 _ _ _ _ ih | case4 _ _ _ _ _ _ ih =>
    rw [List.reverse_cons] at ih
    exact (List.prefix_append _ _).trans ih

theorem prefix_expandTabs {front : Text} (hf : 9 ∉ front) (t : Text) :
    front <+: expandTabs (front ++ t) := by
  have hfrom : ∀ done column,
      done.reverse ++ front <+: expandTabsFrom done column (front ++ t) := by
    induction front with
    | nil =>
      intro done column
      simpa using prefix_expandTabsFrom done column t
    | cons c front ih =>
      intro done column
      have hc : c ≠ 9 := (List.ne_of_not_mem_cons hf).symm
      rw [List.cons_append, expandTabsFrom, if_neg hc]
      split
      all_goals simpa using ih (List.not_mem_of_not_mem_cons hf) (c :: done) _
  rw [expandTabs]
  split
  · exact hfrom [] 0
  · exact List.prefix_append front t

end Text

namespace Markup

variable {ps : Pictographs} {t u : Text}

theorem prefix_piecesFrom (done : List Piece) (before : Text) (fuel : Nat) (t : Text) :
    done.reverse <+: piecesFrom done before fuel t := by
  induction fuel generalizing done before t with
  | zero => cases t <;> simp [piecesFrom]
  | succ fuel ih =>
    cases t with
    | nil => simp [piecesFrom]
    | cons c t =>
      rw [piecesFrom]
      dsimp only
      split
      · split
        · exact .trans (by simp) (ih _ _ _)
        · exact ih _ _ _
      · exact ih _ _ _

def Piece.shown (ps : Pictographs) : Piece → Text
  | .text t => shownText ps t
  | .mark _ => []

namespace Reading

variable {r r' : Reading}

theorem shown_close {m : OpenMark} (h : r.close m = .ok r') : r'.shown = r.shown := by
  simp only [close] at h
  split at h
  · cases h
    rfl
  · split at h <;> cases h
    rfl

theorem shown_closeLast (h : r.closeLast = .ok r') : r'.shown = r.shown := by
  unfold closeLast at h
  split at h
  · exact shown_close h
  · cases h

theorem shown_closeNamed {name : Text} (h : r.closeNamed name = .ok r') : r'.shown = r.shown := by
  unfold closeNamed at h
  split at h
  · exact shown_close h
  · cases h

theorem shown_addMark {inside : Text} (h : r.addMark inside = .ok r') : r'.shown = r.shown := by
  simp only [addMark] at h
  split at h
  · split at h
    · exact shown_closeLast h
    · obtain ⟨_, -, h⟩ := ok_of_bind h
      exact shown_closeNamed h
  · obtain ⟨_, -, rfl⟩ := ok_of_map h
    rfl

theorem text_foldlM {pieces : List Piece} (h : pieces.foldlM (addPiece ps) r = .ok r') :
    r'.text = r.text ++ pieces.flatMap (Piece.shown ps) := by
  induction pieces generalizing r with
  | nil =>
    cases h
    simp
  | cons p pieces ih =>
    rw [List.foldlM_cons] at h
    obtain ⟨next, hp, h⟩ := ok_of_bind h
    rw [ih h]
    cases p with
    | text t =>
      cases hp
      simp [text, addText, Piece.shown]
    | mark inside => simp [text, shown_addMark hp, Piece.shown]

end Reading

theorem eq_of_plain (h : plain ps t = .ok u) : u = (pieces t).flatMap (Piece.shown ps) := by
  obtain ⟨r, hr, h⟩ := ok_of_bind h
  simp only at h
  split at h
  · cases h
  · cases h
    exact Reading.text_foldlM hr

end Markup

namespace Command

open Markup

variable {ps : Pictographs} {message : Text} {lines : List Text}

theorem prefix_pieces_errorText (message : Text) :
    [.text [], .text [], .mark "bold red", .text "Error:"] <+: pieces (errorText message) := by
  have hmark : ("[bold red]Error:[/bold red] " : Text) =
      [91, 98, 111, 108, 100, 32, 114, 101, 100, 93, 69, 114, 114, 111, 114, 58,
        91, 47, 98, 111, 108, 100, 32, 114, 101, 100, 93, 32] := by decide
  have hpieces : pieces (errorText message) =
      piecesFrom [.mark "/bold red", .text [], .text "Error:", .mark "bold red", .text [], .text []]
        [32] (message.length + 19) message := by
    simp [pieces, errorText, Text.join, hmark, piecesFrom, mark?, startsMark, Text.isLower,
      escapedMark, dropEscapes, dropEscapesFrom]
    rfl
  rw [hpieces]
  exact .trans (by simp) (prefix_piecesFrom _ _ _ _)

theorem prefix_of_plain_errorText {u : Text} (h : plain ps (errorText message) = .ok u) :
    "Error:" <+: u := by
  obtain ⟨rest, hr⟩ := prefix_pieces_errorText message
  rw [eq_of_plain h, ← hr, List.flatMap_append]
  exact List.prefix_append _ _

end Command

end SubtreePartition
