import SubtreePartition.Copy

namespace SubtreePartition

namespace Writer

variable {m : Medium} {t t' : FileTree} {p : FilePath} {w : Writer}

theorem create_eq_ok (h : create m t p = .ok (w, t')) :
    ∃ place, t.openWriter p = .ok (place, t') ∧ w = { path := p, place } := by
  unfold create at h
  cases ho : t.openWriter p with
  | error fault => simp [ho, Medium.ask, Except.map] at h
  | ok opened =>
    rw [ho, Medium.ask] at h
    split at h
    · cases h
    · cases h
      exact ⟨opened.1, rfl, rfl⟩

end Writer

namespace Copy

variable {m : Medium} {g : Target} {p : Pass} {x y : Copy} {raw : Bytes}

def follow (x : Copy) (a : Ancestry) : Copy :=
  { x with ancestry := a }

def turned (m : Medium) (g : Target) (x : Copy) : Copy :=
  { (x.leave (x.writer.content m g.compression)) with
    closed := x.active :: x.closed
    active := g.opened (x.active.index + 1)
    phases := x.phases ++ [.rotate]
    log := x.log ++ [.partitionCreated x.active.path x.active.size] }

def begun (x : Copy) (w : Writer) (t : FileTree) : Copy :=
  { x with
    writer := w
    tree := t
    phases := x.phases ++ [.streaming]
    log := x.log ++ [.cutFound x.lines x.active.path] }

inductive Ready (m : Medium) (g : Target) (p : Pass) (x : Copy) (raw : Bytes) : Copy → Prop where
  | same (a : Ancestry) (accepts : p.accept x.ancestry raw = .ok (a, ⟨raw, a.categories⟩))
      (uncut : p.planner.cut x.active.size x.active.index a.categories = false) :
      Ready m g p x raw (x.follow a)
  | rotated (a : Ancestry) (w : Writer) (t : FileTree)
      (accepts : p.accept x.ancestry raw = .ok (a, ⟨raw, a.categories⟩))
      (cut : p.planner.cut x.active.size x.active.index a.categories = true)
      (closes : m.refuses x.tree x.writer.path (.close x.writer.chunks) = none)
      (creates : Writer.create m (x.turned m g).tree (g.path (x.active.index + 1)) = .ok (w, t)) :
      Ready m g p x raw (((x.follow a).turned m g).begun w t)

inductive Taken (m : Medium) (g : Target) (p : Pass) (x : Copy) (raw : Bytes) : Step → Prop where
  | unread (refusal : Refusal)
      (refuses : m.refuses x.tree g.source (.readLine x.lines) = some refusal) :
      Taken m g p x raw (.error (.transfer g.source refusal, x))
  | rejected (rejection : Rejection) (a : Ancestry)
      (rejects : p.accept x.ancestry raw = .error rejection) :
      Taken m g p x raw (.error (.line rejection, x.follow a))
  | unclosed (a : Ancestry) (refusal : Refusal)
      (reads : m.refuses x.tree g.source (.readLine x.lines) = none)
      (accepts : p.accept x.ancestry raw = .ok (a, ⟨raw, a.categories⟩))
      (cut : p.planner.cut x.active.size x.active.index a.categories = true)
      (refuses : m.refuses x.tree x.writer.path (.close x.writer.chunks) = some refusal) :
      Taken m g p x raw (.error (.transfer x.writer.path refusal,
        ((x.follow a).enter .rotate).leave (m.remnant x.writer.path x.writer.chunks)))
  | unopened (a : Ancestry) (fault : FileFault)
      (reads : m.refuses x.tree g.source (.readLine x.lines) = none)
      (accepts : p.accept x.ancestry raw = .ok (a, ⟨raw, a.categories⟩))
      (cut : p.planner.cut x.active.size x.active.index a.categories = true)
      (closes : m.refuses x.tree x.writer.path (.close x.writer.chunks) = none)
      (fails : Writer.create m (x.turned m g).tree (g.path (x.active.index + 1)) = .error fault) :
      Taken m g p x raw (.error (.access (g.path (x.active.index + 1)) fault,
        (x.follow a).turned m g))
  | unwritten (y : Copy) (refusal : Refusal) (ready : Ready m g p x raw y)
      (refuses : m.refuses y.tree y.writer.path (.write y.writer.chunks raw) = some refusal) :
      Taken m g p x raw (.error (.transfer y.writer.path refusal, y.tear))
  | written (y : Copy) (ready : Ready m g p x raw y) : Taken m g p x raw (.ok (y.add raw))

theorem track_cases (p : Pass) (x : Copy) (raw : Bytes) :
    (∃ rejection a, p.accept x.ancestry raw = .error rejection ∧
        x.track p raw = .error (.line rejection, x.follow a)) ∨
      ∃ a, p.accept x.ancestry raw = .ok (a, ⟨raw, a.categories⟩) ∧
        x.track p raw = .ok (x.follow a) := by
  unfold track Pass.accept
  cases Record.ofRaw p.field raw with
  | error fault => exact .inl ⟨_, x.ancestry, rfl, rfl⟩
  | ok r =>
    rcases he : x.ancestry.enter p.mode r with ⟨a, _ | fault⟩
    · exact .inr ⟨a, by simp only [he], by simp only [he]; rfl⟩
    · exact .inl ⟨.unsorted fault, a, by simp only [he], by simp only [he]; rfl⟩

theorem write_taken (h : Ready m g p x raw y) : Taken m g p x raw (y.write m raw) := by
  unfold write
  split
  next refusal refuses => exact .unwritten y refusal h refuses
  next => exact .written y h

theorem advance_error {fault : FileFault}
    (h : Writer.create m x.tree (g.path (x.active.index + 1)) = .error fault) :
    x.advance m g = .error (.access (g.path (x.active.index + 1)) fault,
      { x with closed := x.active :: x.closed, active := g.opened (x.active.index + 1) }) := by
  have hpath : (g.opened (x.active.index + 1)).path = g.path (x.active.index + 1) := rfl
  simp only [advance, hpath, h]

theorem advance_ok {w : Writer} {t : FileTree}
    (h : Writer.create m x.tree (g.path (x.active.index + 1)) = .ok (w, t)) :
    x.advance m g = .ok { x with
      closed := x.active :: x.closed
      active := g.opened (x.active.index + 1)
      writer := w
      tree := t } := by
  have hpath : (g.opened (x.active.index + 1)).path = g.path (x.active.index + 1) := rfl
  simp only [advance, hpath, h]

theorem rotate_cases (m : Medium) (g : Target) (ho : x.writer.isOpen = true) :
    (∃ refusal, m.refuses x.tree x.writer.path (.close x.writer.chunks) = some refusal ∧
        x.rotate m g = .error (.transfer x.writer.path refusal,
          (x.enter .rotate).leave (m.remnant x.writer.path x.writer.chunks))) ∨
      m.refuses x.tree x.writer.path (.close x.writer.chunks) = none ∧
        ((∃ fault,
            Writer.create m (x.turned m g).tree (g.path (x.active.index + 1)) = .error fault ∧
            x.rotate m g =
              .error (.access (g.path (x.active.index + 1)) fault, x.turned m g)) ∨
          ∃ w t, Writer.create m (x.turned m g).tree (g.path (x.active.index + 1)) = .ok (w, t) ∧
            x.rotate m g = .ok ((x.turned m g).begun w t)) := by
  have hopen : (x.enter .rotate).writer.isOpen = true := ho
  unfold rotate close
  rw [if_pos hopen]
  cases hc : m.refuses x.tree x.writer.path (.close x.writer.chunks) with
  | some refusal =>
    have hc' : m.refuses (x.enter .rotate).tree (x.enter .rotate).writer.path
        (.close (x.enter .rotate).writer.chunks) = some refusal := hc
    exact .inl ⟨refusal, rfl, by rw [hc']; rfl⟩
  | none =>
    have hc' : m.refuses (x.enter .rotate).tree (x.enter .rotate).writer.path
        (.close (x.enter .rotate).writer.chunks) = none := hc
    refine .inr ⟨rfl, ?_⟩
    rw [hc']
    cases hw : Writer.create m (x.turned m g).tree (g.path (x.active.index + 1)) with
    | error fault =>
      refine .inl ⟨fault, rfl, ?_⟩
      simp only [bind, Except.bind]
      rw [advance_error hw]
      rfl
    | ok opened =>
      refine .inr ⟨opened.1, opened.2, rfl, ?_⟩
      simp only [bind, Except.bind]
      rw [advance_ok hw]
      rfl

theorem take_taken (m : Medium) (g : Target) (p : Pass) (raw : Bytes)
    (ho : x.writer.isOpen = true) : Taken m g p x raw (x.take m g p raw) := by
  unfold take pull
  cases hr : m.refuses x.tree g.source (.readLine x.lines) with
  | some refusal => exact .unread refusal hr
  | none =>
    rcases track_cases p x raw with ⟨rejection, a, ha, ht⟩ | ⟨a, ha, ht⟩
    · simp only [bind, Except.bind, ht]
      exact .rejected rejection a ha
    · simp only [bind, Except.bind, ht]
      have hopen : (x.follow a).writer.isOpen = true := ho
      cases hcut : (x.follow a).isCut p with
      | false => exact write_taken (.same a ha hcut)
      | true =>
        rcases rotate_cases m g hopen with
          ⟨refusal, hc, hrot⟩ | ⟨hc, ⟨fault, hw, hrot⟩ | ⟨w, t, hw, hrot⟩⟩
        · simp only [if_true, hrot]
          exact .unclosed a refusal hr ha hcut hc
        · simp only [if_true, hrot]
          exact .unopened a fault hr ha hcut hc hw
        · simp only [if_true, hrot]
          exact write_taken (.rotated a w t ha hcut hc hw)

end Copy

end SubtreePartition
