import SubtreePartition.Proofs.Copy.Cut
import SubtreePartition.Proofs.FileTree.Kept
import SubtreePartition.Proofs.FileTree.Making
import SubtreePartition.Proofs.FileTree.Open
import SubtreePartition.Proofs.Worker.Loop

namespace SubtreePartition

variable {P : FileTree → Prop} {m : Medium} {g : Target} {p : Pass} {t t' : FileTree}

theorem Writer.create_keeps {w : Writer} {path : FilePath} (hk : FileTree.Kept P) (ht : P t)
    (h : Writer.create m t path = .ok (w, t')) :
    P t' ∧ t'.locate w.path = .ok w.place ∧ t'.find? w.place = some (.file []) := by
  obtain ⟨place, ho, rfl⟩ := Writer.create_eq_ok h
  have hw : t.write path [] = .ok t' := by
    rw [FileTree.write_eq_map_openWriter, ho]
    obtain ⟨-, -, rfl⟩ := FileTree.openWriter_eq_ok ho
    simp [Except.map, FileTree.put_put]
  obtain ⟨hl, hd, rfl⟩ := FileTree.openWriter_eq_ok ho
  refine ⟨hk.write t _ path [] hw ht, (FileTree.keepsDirectories_put hd _).locate hl, ?_⟩
  rw [FileTree.find?_put (FileTree.ne_nil_of_find?_ne hd), if_pos rfl]

namespace Copy

variable {x y : Copy} {raw : Bytes} {e : Step}

structure Seated (P : FileTree → Prop) (x : Copy) : Prop where
  tree : P x.tree
  located : x.tree.locate x.writer.path = .ok x.writer.place
  file : ∃ content, x.tree.find? x.writer.place = some (.file content)

theorem Seated.leave (hk : FileTree.Kept P) (h : Seated P x) (content : Bytes) :
    Seated P (x.leave content) := by
  obtain ⟨before, hf⟩ := h.file
  have hd : x.tree.find? x.writer.place ≠ some .directory := by rw [hf]; nofun
  have hne := FileTree.ne_nil_of_find?_ne hd
  have hw : x.tree.write x.writer.path content = .ok (x.leave content).tree :=
    FileTree.write_eq_ok_iff.mpr ⟨x.writer.place, h.located, hd, rfl⟩
  refine ⟨hk.write _ _ _ _ hw h.tree, ?_, content, ?_⟩
  · exact (FileTree.locate_put_file hne hf content x.writer.path).trans h.located
  · show (x.tree.put x.writer.place (.file content)).find? x.writer.place = _
    rw [FileTree.find?_put hne, if_pos rfl]

theorem Seated.follow (h : Seated P x) (a : Ancestry) : Seated P (x.follow a) :=
  ⟨h.tree, h.located, h.file⟩

theorem Seated.turned (hk : FileTree.Kept P) (h : Seated P x) (m : Medium) (g : Target) :
    Seated P (x.turned m g) :=
  have hleave := h.leave hk (x.writer.content m g.compression)
  ⟨hleave.tree, hleave.located, hleave.file⟩

theorem Seated.ready (hk : FileTree.Kept P) (h : Seated P x) (r : Ready m g p x raw y) :
    Seated P y := by
  cases r with
  | same a accepts uncut => exact h.follow a
  | rotated a w t accepts cut closes creates =>
    obtain ⟨ht, hl, hf⟩ := Writer.create_keeps hk (h.turned hk m g).tree creates
    exact ⟨ht, hl, [], hf⟩

theorem Ready.isOpen (r : Ready m g p x raw y) (ho : x.writer.isOpen = true) :
    y.writer.isOpen = true := by
  cases r with
  | same a accepts uncut => exact ho
  | rotated a w t accepts cut closes creates =>
    obtain ⟨place, -, rfl⟩ := Writer.create_eq_ok creates
    rfl

def Step.Leaves (Q : Copy → Prop) : Step → Prop
  | .ok x => Q x
  | .error (_, x) => Q x

theorem Seated.taken (hk : FileTree.Kept P) (h : Seated P x) (hs : Taken m g p x raw e) :
    e.Leaves (Seated P) := by
  cases hs with
  | unread refusal refuses => exact h
  | rejected rejection a rejects => exact h.follow a
  | unclosed a refusal reads accepts cut refuses =>
    have hleave := h.leave hk (m.remnant x.writer.path x.writer.chunks)
    exact ⟨hleave.tree, hleave.located, hleave.file⟩
  | unopened a fault reads accepts cut closes fails => exact (h.follow a).turned hk m g
  | unwritten y refusal ready refuses =>
    have hready := h.ready hk ready
    exact ⟨hready.tree, hready.located, hready.file⟩
  | written y ready =>
    have hready := h.ready hk ready
    exact ⟨hready.tree, hready.located, hready.file⟩

theorem Seated.foldlM (hk : FileTree.Kept P) (h : Seated P x) (ho : x.writer.isOpen = true)
    (lines : List Bytes) :
    Step.Leaves (Seated P) (lines.foldlM (Copy.take m g p) x) := by
  induction lines generalizing x with
  | nil => exact h
  | cons raw rest ih =>
    have htaken := take_taken m g p raw ho
    have hleaves := h.taken hk htaken
    rw [List.foldlM_cons]
    cases ht : x.take m g p raw with
    | error e =>
      rw [ht] at hleaves
      exact hleaves
    | ok y =>
      rw [ht] at htaken hleaves
      cases htaken with
      | written y ready => exact ih hleaves (ready.isOpen ho)

theorem Seated.close (hk : FileTree.Kept P) (h : Seated P x) (m : Medium) (c : Compression) :
    Step.Leaves (Seated P) (x.close m c) := by
  unfold Copy.close
  split
  · split
    · exact h.leave hk _
    · exact h.leave hk _
  · exact h

theorem Seated.ensureClosed (hk : FileTree.Kept P) (h : e.Leaves (Seated P)) (m : Medium)
    (c : Compression) : Step.Leaves (Seated P) (Copy.ensureClosed m c e) := by
  rcases e with ⟨fault, x⟩ | x
  · have hclose := Seated.close hk h m c
    simp only [Copy.ensureClosed]
    cases hx : x.close m c with
    | error e =>
      rw [hx] at hclose
      exact hclose
    | ok y =>
      rw [hx] at hclose
      exact hclose
  · exact Seated.close hk h m c

theorem Seated.takeAll (hk : FileTree.Kept P) (h : Seated P x) (ho : x.writer.isOpen = true)
    (lines : Store.Stream) : Step.Leaves (Seated P) (x.takeAll m g p lines) := by
  have hleaves := h.foldlM (m := m) (g := g) (p := p) hk ho lines.lines
  cases hx : lines.lines.foldlM (Copy.take m g p) x with
  | error e =>
    rw [hx] at hleaves
    rw [Copy.takeAll_error hx]
    exact hleaves
  | ok y =>
    rw [hx] at hleaves
    cases hr : m.refuses y.tree g.source (.readLine y.lines) with
    | some refusal =>
      rw [takeAll_unread hx hr]
      exact hleaves
    | none =>
      rw [takeAll_ok hx hr]
      cases lines.fault with
      | some fault => exact hleaves
      | none => exact hleaves

end Copy

namespace Worker

theorem keeps_finish (hk : FileTree.Kept P) {x : Call} (h : P x.tree) :
    P (x.finish m).2.tree := by
  unfold Call.finish
  dsimp only
  split
  · split
    next tree hr =>
      refine hk.remove x.tree tree x.worker.task.source ?_ h
      cases hremove : x.tree.remove x.worker.task.source with
      | error fault =>
        rw [hremove] at hr
        cases hr
      | ok tree' =>
        rw [hremove, Medium.ask] at hr
        split at hr
        · cases hr
        · exact hr
    · exact h
  · exact h

theorem keeps_copy (hk : FileTree.Kept P) {x : Call} {y : Copy} (h : y.Seated P)
    (ho : y.writer.isOpen = true) (lines : Store.Stream) : P (x.copy m p lines y).2.tree := by
  have htaken : Copy.Step.Leaves (Copy.Seated P) (y.takeAll m x.worker.task.target p lines) :=
    h.takeAll hk ho lines
  have hleaves := Copy.Seated.ensureClosed hk htaken m x.worker.task.target.compression
  unfold Call.copy
  dsimp only
  split
  next fault z hz =>
    rw [hz] at hleaves
    exact hleaves.tree
  next z hz =>
    rw [hz] at hleaves
    exact keeps_finish hk hleaves.tree

theorem keeps_stream (hk : FileTree.Kept P) (s : Splitter) (ht : P t) (log : Log) :
    P ((Call.starting s t log).stream m p).2.tree := by
  rw [stream_eq]
  dsimp only
  split
  · exact ht
  · split
    · exact ht
    next writer tree hw =>
      obtain ⟨htree, hl, hf⟩ := Writer.create_keeps hk ht hw
      obtain ⟨place, -, rfl⟩ := Writer.create_eq_ok hw
      exact keeps_copy hk ⟨htree, hl, [], hf⟩ rfl _

theorem keeps_partitionInto (hk : FileTree.Kept P) (s : Splitter) (ht : P t) (log : Log) :
    P ((Call.starting s t log).partitionInto m p).2.tree := by
  have hmade : P (Call.makeDirectories m t s.settings.workDir).1 := by
    unfold Call.makeDirectories
    split
    · exact ht
    · exact FileTree.makeDirectories_induction (fun t t' q _ => hk.makeDirectory t t' q) ht rfl
  rw [partitionInto_eq]
  rcases hd : Call.makeDirectories m t s.settings.workDir with ⟨t', _ | fault⟩
  · rw [hd] at hmade
    exact keeps_stream hk s hmade log
  · rw [hd] at hmade
    dsimp only
    split
    · exact hmade
    · exact hmade

theorem keeps_split (hk : FileTree.Kept P) (m : Medium) (w : Worker) (ht : P t) :
    P (w.split m t).2.tree := by
  rw [split_eq]
  split
  · exact ht
  next size _ =>
    rw [plan_eq]
    split
    · exact ht
    · split
      · exact ht
      · exact keeps_partitionInto hk _ ht _

end Worker

end SubtreePartition
