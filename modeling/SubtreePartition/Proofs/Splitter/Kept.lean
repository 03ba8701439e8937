import SubtreePartition.Proofs.Worker.Kept
import SubtreePartition.Proofs.Worker.Sound

namespace SubtreePartition.Splitter

variable {P : FileTree → Prop} {t : FileTree}

theorem keeps_run (h : FileTree.Kept P) (s : Splitter) (ht : P t) : P (s.run t).tree := by
  have hsplit := Worker.keeps_split h .sound (Worker.new s) ht
  rw [Worker.split_sound] at hsplit
  exact hsplit

end SubtreePartition.Splitter
