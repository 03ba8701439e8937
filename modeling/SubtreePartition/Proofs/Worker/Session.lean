import SubtreePartition.Proofs.Worker.Again

namespace SubtreePartition

/-- What can happen to a worker and its files. The medium of a call is as it is at that time, and a
change is made by others. -/
inductive Occurrence where
  | call (medium : Medium)
  | change (files : Volume)

structure Episode where
  medium : Medium
  before : Volume
  reply : Reply

structure Session where
  worker : Worker
  files : Volume
  calls : List Episode

namespace Session

def start (s : Splitter) (files : Volume) : Session :=
  ⟨.new s, files, []⟩

def step (x : Session) : Occurrence → Session
  | .call m =>
      let r := x.worker.split m x.files
      let after : Volume := ⟨r.2.tree, Worker.keeps_split FileTree.kept_wellFormed m x.worker
        x.files.wellFormed⟩
      ⟨r.2.worker, after, ⟨m, x.files, r⟩ :: x.calls⟩
  | .change files => { x with files := files }

def run (x : Session) (occurrences : List Occurrence) : Session :=
  occurrences.foldl step x

end Session

namespace Episode

def RemovesSource (c : Episode) : Prop :=
  ∃ bytes, c.before.read c.reply.2.worker.task.source = .ok bytes ∧
    ∀ bytes', c.reply.2.tree.read c.reply.2.worker.task.source ≠ .ok bytes'

/-- The call went as the first one of a new worker on the same files and the same medium would. If
nothing was refused to it and it has left the source, the next call ends the same and leaves all
files as they are. -/
structure Reproducible (s : Splitter) (c : Episode) : Prop where
  fresh : c.reply.sight = Reply.sight ((Worker.new s).split c.medium c.before)
  again : c.medium = .sound → ¬ c.RemovesSource →
    Reply.sight (c.reply.2.worker.split .sound c.reply.2.tree) = c.reply.sight

end Episode

theorem Result.sight_reply {r r' : Run} (h : r.result = r'.result) :
    Reply.sight r.reply = Reply.sight r'.reply := by
  obtain ⟨outcome, phases, partitions, log, tree, splitter⟩ := r
  obtain ⟨outcome', phases', partitions', log', tree', splitter'⟩ := r'
  simp only [Run.result, Result.mk.injEq] at h
  obtain ⟨hreturned, rfl, rfl, rfl, rfl⟩ := h
  cases outcome with
  | failed fault => rfl
  | skipped =>
    have hpaths := Option.some.inj hreturned
    simp only [Reply.sight, Run.reply, hpaths]
    rfl
  | split =>
    have hpaths := Option.some.inj hreturned
    simp only [Reply.sight, Run.reply, hpaths]
    rfl

namespace Session

variable {s : Splitter} {x : Session}

theorem reproducible_call (m : Medium) (h : s.IsUsed x.worker.task) :
    Episode.Reproducible s ⟨m, x.files, x.worker.split m x.files⟩ where
  fresh := Worker.sight_used h m x.files
  again := by
    rintro rfl hk
    obtain ⟨worker, files, calls⟩ := x
    dsimp only at hk ⊢
    have hsound := worker.split_sound files
    rw [hsound] at hk ⊢
    have hused : worker.task.IsUsed (worker.task.run files).splitter := by
      have hsplit := worker.isUsed_split .sound files
      rw [hsound] at hsplit
      exact hsplit
    let after := (worker.task.run files).tree
    calc
      Reply.sight ((worker.task.run files).reply.2.worker.split .sound after)
      _ = Reply.sight ((Worker.new (worker.task.run files).splitter).split .sound after) := rfl
      _ = Reply.sight ((Worker.new worker.task).split .sound after) :=
          Worker.sight_used hused .sound after
      _ = Reply.sight (worker.task.run after).reply := by rw [Worker.split_sound]; rfl
      _ = Reply.sight (worker.task.run files).reply :=
        Result.sight_reply (Splitter.result_again files.wellFormed hk)

structure Sound (s : Splitter) (x : Session) : Prop where
  used : s.IsUsed x.worker.task
  calls : ∀ c ∈ x.calls, c.Reproducible s

theorem sound_start (s : Splitter) (files : Volume) : Sound s (start s files) :=
  ⟨.inl rfl, by simp [start]⟩

theorem Sound.step (h : Sound s x) (occurrence : Occurrence) : Sound s (x.step occurrence) := by
  cases occurrence with
  | call m =>
    refine ⟨Worker.isUsed_split_of_used h.used m rfl x.files, ?_⟩
    intro c hc
    rcases List.mem_cons.mp hc with rfl | hc
    · exact reproducible_call m h.used
    · exact h.calls c hc
  | change files => exact ⟨h.used, h.calls⟩

theorem Sound.run (h : Sound s x) (occurrences : List Occurrence) :
    Sound s (x.run occurrences) := by
  induction occurrences generalizing x with
  | nil => exact h
  | cons occurrence rest ih => exact ih (h.step occurrence)

theorem reproducible_of_mem_calls (s : Splitter) (files : Volume) (occurrences : List Occurrence) :
    ∀ c ∈ ((start s files).run occurrences).calls, c.Reproducible s :=
  ((sound_start s files).run occurrences).calls

def treeOfStopped : FileTree :=
  { nodes := [(["store"], .file (Utf8.encode "/a|{}\n/b|{}\n/c"))] }

def volumeOfStopped : Volume :=
  ⟨treeOfStopped, FileTree.wellFormed_of_nodes (by decide) (by decide)⟩

def treeOfLeftovers : FileTree :=
  { nodes :=
      [(["store"], .file (Utf8.encode "/a|{}\n")),
        (["out"], .directory),
        (["out", "split-1-store"], .file (Utf8.encode "/a|{}\n")),
        (["out", "split-2-store"], .file (Utf8.encode "/b|{}\n"))] }

def volumeOfLeftovers : Volume :=
  ⟨treeOfLeftovers, FileTree.wellFormed_of_nodes (by decide) (by decide)⟩

theorem reproducible_stopped :
    let x := (start Worker.splitterOfUnclosed volumeOfStopped).run
      [.call .sound, .call Worker.mediumOfFull, .change volumeOfLeftovers, .call .sound,
        .call .sound]
    x.calls.map (fun c => (c.reply.2.worker.phase, c.reply.2.worker.partitions.length)) =
        [(.done, 1), (.done, 1), (.rotate, 1), (.streaming, 2)] ∧
      (∃ c, x.calls.head? = some c ∧ c.Reproducible Worker.splitterOfUnclosed) ∧
      ∃ c, x.calls.getLast? = some c ∧ c.Reproducible Worker.splitterOfUnclosed := by
  intro x
  have hx : ∀ c ∈ x.calls, c.Reproducible Worker.splitterOfUnclosed := by
    intro c hc
    exact reproducible_of_mem_calls Worker.splitterOfUnclosed volumeOfStopped _ c hc
  refine ⟨by decide +kernel, ⟨_, rfl, hx _ ?_⟩, ⟨_, rfl, hx _ ?_⟩⟩
  · exact List.mem_of_mem_head? rfl
  · exact List.mem_of_getLast? rfl

end Session

end SubtreePartition
