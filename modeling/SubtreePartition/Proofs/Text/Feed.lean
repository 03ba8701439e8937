import SubtreePartition.Proofs.Text.LineEnd
import SubtreePartition.Proofs.Text.Strict
import SubtreePartition.Text.Feed

namespace SubtreePartition.Feed

variable {f f' : Feed} {t u : Text} {want size fuel : Nat} {more : Bool} {defect : Utf8.Defect}

def pending (f : Feed) : Bytes :=
  f.begun ++ f.octets

def held (f : Feed) : Text :=
  if f.afterReturn then [Text.carriageReturn] else []

def Gives (f : Feed) (t : Text) : Prop :=
  ∃ v : Text, v.IsScalar ∧ Utf8.encode v = f.pending ∧
    t = f.ready ++ Text.unifyLineEnds (f.held ++ v)

def room (f : Feed) : Nat :=
  f.ready.length + f.octets.length + f.held.length

def IsSpent (f : Feed) : Prop :=
  f.pending = [] ∧ f.held = []

def IsBehind (f : Feed) : Prop :=
  Utf8.character? f.begun = none

structure Leads (f f' : Feed) : Prop where
  gives (t : Text) : f.Gives t ↔ f'.Gives t
  behind : f'.IsBehind
  room : f'.room ≤ f.room

theorem Leads.refl (h : f.IsBehind) : f.Leads f :=
  ⟨fun _ => Iff.rfl, h, Nat.le_refl _⟩

theorem Leads.trans {g : Feed} (h : f.Leads f') (h' : f'.Leads g) : f.Leads g :=
  ⟨fun t => (h.gives t).trans (h'.gives t), h'.behind, Nat.le_trans h'.room h.room⟩

theorem exists_gives_iff : (∃ t, f.Gives t) ↔ Utf8.IsText f.pending := by
  constructor
  · rintro ⟨t, v, hv, he, -⟩
    exact ⟨v, hv, he⟩
  · rintro ⟨v, hv, he⟩
    exact ⟨_, v, hv, he, rfl⟩

theorem gives_iff_of_pending (h : f.pending = []) :
    f.Gives t ↔ t = f.ready ++ Text.unifyLineEnds f.held := by
  constructor
  · rintro ⟨v, -, he, rfl⟩
    rw [h, Utf8.encode_eq_nil_iff] at he
    rw [he, List.append_nil]
  · rintro rfl
    exact ⟨[], nofun, h.symm, by rw [List.append_nil]⟩

theorem IsSpent.gives_iff (h : f.IsSpent) : f.Gives t ↔ t = f.ready := by
  rw [gives_iff_of_pending h.1, h.2]
  exact Iff.of_eq (congrArg (t = ·) (List.append_nil _))

theorem addText_nil (f : Feed) : f.addText [] = f := by
  simp [addText, Text.unifyLineEnds, Text.unifyLineEndsFrom]

theorem addText_of_ne_nil (f : Feed) (hu : u ≠ []) :
    f.addText u =
      if (f.held ++ u).getLast? = some Text.carriageReturn then
        { f with
          afterReturn := true
          ready := f.ready ++ Text.unifyLineEnds (f.held ++ u).dropLast }
      else
        { f with afterReturn := false, ready := f.ready ++ Text.unifyLineEnds (f.held ++ u) } := by
  have hw : (if f.afterReturn && !u.isEmpty then Text.carriageReturn :: u else u) =
      f.held ++ u := by
    rw [held]
    cases f.afterReturn <;> simp [hu]
  have hne : (f.held ++ u).isEmpty = false := by simp [hu]
  unfold addText
  simp only [hw]
  split
  next hl => simp [hl]
  next hl => simp only [hl, hne, Bool.and_false, Bool.or_false, decide_false]

theorem addText_cases (f : Feed) (u : Text) :
    u = [] ∨ (∃ done, f.held ++ u = done ++ [Text.carriageReturn] ∧
      f.addText u = { f with afterReturn := true, ready := f.ready ++ Text.unifyLineEnds done }) ∨
      ((f.held ++ u).getLast? ≠ some Text.carriageReturn ∧ f.addText u =
        { f with afterReturn := false, ready := f.ready ++ Text.unifyLineEnds (f.held ++ u) }) := by
  by_cases hu : u = []
  · exact .inl hu
  · right
    rw [addText_of_ne_nil f hu]
    by_cases hl : (f.held ++ u).getLast? = some Text.carriageReturn
    · obtain ⟨done, hd⟩ := List.getLast?_eq_some_iff.mp hl
      exact .inl ⟨done, hd, by rw [if_pos hl, hd, List.dropLast_concat]⟩
    · exact .inr ⟨hl, if_neg hl⟩

theorem ready_addText (f : Feed) (u v : Text) :
    (f.addText u).ready ++ Text.unifyLineEnds ((f.addText u).held ++ v) =
      f.ready ++ Text.unifyLineEnds (f.held ++ (u ++ v)) := by
  rcases addText_cases f u with rfl | ⟨done, hd, he⟩ | ⟨hl, he⟩
  · rw [addText_nil, List.nil_append]
  · rw [he, ← List.append_assoc f.held, hd, List.append_assoc done, List.singleton_append,
      Text.unifyLineEnds_append_return]
    simp [held]
  · rw [he, ← List.append_assoc f.held, Text.unifyLineEnds_append hl]
    simp [held]

theorem room_addText_le (f : Feed) (u : Text) : (f.addText u).room ≤ f.room + u.length := by
  rcases addText_cases f u with rfl | ⟨done, hd, he⟩ | ⟨hl, he⟩
  · rw [addText_nil]
    exact Nat.le_refl _
  · have hlen := congrArg List.length hd
    have hready := Text.length_unifyLineEndsFrom_le false done
    rw [List.length_append, List.length_append, List.length_singleton] at hlen
    simp only [he, room, held, if_pos, List.length_append, List.length_singleton,
      Text.unifyLineEnds]
    simp only [held] at hlen ⊢
    omega
  · have hready := Text.length_unifyLineEndsFrom_le false (f.held ++ u)
    rw [List.length_append] at hready
    simp only [he, room, held, List.length_append, Text.unifyLineEnds] at hready ⊢
    simp
    omega

theorem pending_addText (f : Feed) (u : Text) : (f.addText u).pending = f.pending :=
  rfl

theorem gives_addText {g : Feed} (hu : u.IsScalar) (hp : f.pending = Utf8.encode u ++ g.pending)
    (hr : g.ready = f.ready) (hh : g.held = f.held) (t : Text) :
    f.Gives t ↔ (g.addText u).Gives t := by
  constructor
  · rintro ⟨v, hv, he, rfl⟩
    have hg : Utf8.IsText g.pending := by
      rw [← Utf8.isText_encode_append hu, ← hp]
      exact ⟨v, hv, he⟩
    obtain ⟨w, hw, hwe⟩ := hg
    have hvw : v = u ++ w := by
      apply Utf8.encode_inj_of_isScalar hv (Text.isScalar_append.mpr ⟨hu, hw⟩)
      rw [he, hp, Utf8.encode_append, hwe]
    exact ⟨w, hw, hwe, by rw [ready_addText, hr, hh, hvw]⟩
  · rintro ⟨w, hw, hwe, rfl⟩
    refine ⟨u ++ w, Text.isScalar_append.mpr ⟨hu, hw⟩, ?_, ?_⟩
    · rw [Utf8.encode_append, hwe, hp, pending_addText]
    · rw [ready_addText, hr, hh]

theorem length_le_of_isBehind {chunk left : Bytes} (hb : f.IsBehind) (hu : u.IsScalar)
    (he : f.begun ++ chunk = Utf8.encode u ++ left) : u.length ≤ chunk.length := by
  cases u with
  | nil => exact Nat.zero_le _
  | cons c u =>
    obtain ⟨hc, -⟩ := Text.isScalar_cons.mp hu
    rw [Utf8.encode_cons, List.append_assoc] at he
    have hshort : f.begun.length < (Utf8.encodeCodePoint c).length := by
      refine Nat.lt_of_not_le fun hle => ?_
      obtain ⟨x, hx⟩ := List.prefix_of_prefix_length_le (List.prefix_append _ _)
        (he ▸ List.prefix_append f.begun chunk) hle
      obtain ⟨a, tail, hw, hr⟩ := Utf8.character?_encodeCodePoint hc x
      rw [IsBehind, ← hx, hw, List.cons_append, hr] at hb
      cases hb
    have hlen := congrArg List.length he
    have hu := Utf8.length_le_encode u
    simp only [List.length_append, List.length_cons] at hlen ⊢
    omega

theorem chunkSize_pos (f : Feed) (want : Nat) : 0 < f.chunkSize want := by
  have hleast : 0 < leastChunk := by decide
  unfold chunkSize
  split
  split
  · split <;> exact Nat.lt_of_lt_of_le hleast (Nat.le_max_left _ _)
  · exact Nat.lt_of_lt_of_le hleast (Nat.le_max_left _ _)

inductive ReadsChunk (f : Feed) : Except Utf8.Defect (Feed × Bool) → Prop where
  | atEnd (hp : f.pending = []) :
      ReadsChunk f (.ok ({ f with
        afterReturn := false
        ready := f.ready ++ Text.unifyLineEnds f.held }, f.afterReturn))
  | breaksOff {a : UInt8} {rest : Bytes} {defect : Utf8.Defect} (hp : f.pending = a :: rest)
      (hb : f.begun = a :: rest) : ReadsChunk f (.error defect)
  | decoded {chunk rest left : Bytes} {u : Text} {last : Nat × Nat} (ho : f.octets = chunk ++ rest)
      (hc : chunk ≠ []) (hd : Utf8.decodePart (f.begun ++ chunk) = .ok (u, left)) :
      ReadsChunk f (.ok ({ { f with octets := rest, begun := left }.addText u with
        lastChunk := last }, true))
  | refused {chunk rest : Bytes} {defect : Utf8.Defect} (ho : f.octets = chunk ++ rest)
      (hd : Utf8.decodePart (f.begun ++ chunk) = .error defect) : ReadsChunk f (.error defect)

theorem readsChunk (f : Feed) (want : Nat) : f.ReadsChunk (f.readChunk want) := by
  have hsize := f.chunkSize_pos want
  have hsplit := (List.take_append_drop (f.chunkSize want) f.octets).symm
  unfold readChunk
  dsimp only
  split
  next hc =>
    have ho : f.octets = [] := by
      rw [List.isEmpty_iff, List.take_eq_nil_iff] at hc
      exact hc.resolve_left (Nat.ne_of_gt hsize)
    split
    next hb => exact .breaksOff (by rw [pending, ho, hb, List.append_nil]) hb
    next hb =>
      have hlast : (if f.afterReturn then [Text.lineFeed] else []) =
          Text.unifyLineEnds f.held := by
        rw [held]
        cases f.afterReturn <;> rfl
      rw [hlast]
      exact .atEnd (by rw [pending, ho, hb, List.append_nil])
  next hc =>
    split
    next hd => exact .refused hsplit hd
    next hd => exact .decoded hsplit (by simpa using hc) hd

theorem leads_atEnd (hb : f.IsBehind) (hp : f.pending = []) :
    f.Leads { f with afterReturn := false, ready := f.ready ++ Text.unifyLineEnds f.held } where
  gives t := by
    have hspent : IsSpent
        { f with afterReturn := false, ready := f.ready ++ Text.unifyLineEnds f.held } := ⟨hp, rfl⟩
    exact (gives_iff_of_pending hp).trans hspent.gives_iff.symm
  behind := hb
  room := by
    have hlen := Text.length_unifyLineEndsFrom_le false f.held
    simp only [room, held, List.length_append, Text.unifyLineEnds, Bool.false_eq_true, if_false,
      List.length_nil] at hlen ⊢
    omega

theorem leads_decoded {chunk rest left : Bytes} (hb : f.IsBehind)
    (ho : f.octets = chunk ++ rest) (hd : Utf8.decodePart (f.begun ++ chunk) = .ok (u, left)) :
    f.Leads ({ f with octets := rest, begun := left }.addText u) := by
  obtain ⟨u, rfl, hu, he, hleft⟩ := Utf8.partFrom_eq_ok (Utf8.decodes_decode _) hd
  have hp : f.pending = Utf8.encode u ++ pending { f with octets := rest, begun := left } := by
    rw [pending, ho, ← List.append_assoc, he, List.append_assoc]
    rfl
  refine ⟨gives_addText hu hp rfl rfl, hleft, ?_⟩
  · have hroom := room_addText_le { f with octets := rest, begun := left } u
    have hlen := length_le_of_isBehind hb hu he
    refine Nat.le_trans hroom ?_
    simp only [room, held, ho, List.length_append]
    omega

theorem IsSpent.octets_eq (h : f.IsSpent) : f.octets = [] :=
  (List.append_eq_nil_iff.mp h.1).2

theorem readChunk_ok (hb : f.IsBehind) (h : f.readChunk want = .ok (f', more)) :
    f.Leads f' ∧ (f'.IsSpent ∧ (f.IsSpent → more = false) ∨
      f'.octets.length < f.octets.length ∧ more = true) := by
  have hread := f.readsChunk want
  rw [h] at hread
  cases hread with
  | atEnd hp =>
    refine ⟨leads_atEnd hb hp, .inl ⟨⟨hp, rfl⟩, fun hs => ?_⟩⟩
    have hheld := hs.2
    rw [held] at hheld
    cases hr : f.afterReturn with
    | false => rfl
    | true => simp [hr] at hheld
  | @decoded chunk rest left u last ho hc hd =>
    have hlead := leads_decoded hb ho hd
    have hlen : rest.length < f.octets.length := by
      have := List.length_pos_iff.mpr hc
      rw [ho, List.length_append]
      omega
    exact ⟨⟨hlead.gives, hlead.behind, hlead.room⟩, .inr ⟨hlen, rfl⟩⟩

theorem fill_ok (hb : f.IsBehind)
    (hfuel : f.octets.length + 2 ≤ fuel ∨ f.IsSpent ∧ 1 ≤ fuel)
    (h : fill want fuel f = .ok f') :
    f.Leads f' ∧ (want ≤ f'.ready.length ∨ f'.IsSpent) := by
  induction fuel generalizing f with
  | zero => omega
  | succ fuel ih =>
    rw [fill] at h
    split at h
    next hw =>
      cases h
      exact ⟨.refl hb, .inl hw⟩
    next =>
      split at h
      next => cases h
      next g hg =>
        obtain ⟨hlead, hnext⟩ := readChunk_ok hb hg
        have hfuel' : g.octets.length + 2 ≤ fuel ∨ g.IsSpent ∧ 1 ≤ fuel := by
          rcases hnext with ⟨hspent, hn⟩ | ⟨hlen, -⟩
          · rcases hfuel with hfuel | ⟨hf, -⟩
            · exact .inr ⟨hspent, by omega⟩
            · cases hn hf
          · rcases hfuel with hfuel | ⟨hf, -⟩
            · exact .inl (by omega)
            · rw [hf.octets_eq] at hlen
              exact absurd hlen (Nat.not_lt_zero _)
        obtain ⟨hrest, hend⟩ := ih hlead.behind hfuel' h
        exact ⟨hlead.trans hrest, hend⟩
      next g hg =>
        cases h
        obtain ⟨hlead, ⟨hspent, -⟩ | ⟨-, hn⟩⟩ := readChunk_ok hb hg
        · exact ⟨hlead, .inr hspent⟩
        · cases hn

structure Takes (f : Feed) (want : Nat) (t : Text) (f' : Feed) : Prop where
  gives (x : Text) : f.Gives x ↔ ∃ y, x = t ++ y ∧ f'.Gives y
  behind : f'.IsBehind
  room : f'.room + t.length ≤ f.room
  full : t.length = want ∨ f'.IsSpent ∧ f'.ready = []

theorem gives_drop (f : Feed) (n : Nat) (x : Text) :
    f.Gives x ↔ ∃ y, x = f.ready.take n ++ y ∧ Gives { f with ready := f.ready.drop n } y := by
  constructor
  · rintro ⟨v, hv, he, rfl⟩
    refine ⟨f.ready.drop n ++ Text.unifyLineEnds (f.held ++ v), ?_, v, hv, he, rfl⟩
    rw [← List.append_assoc, List.take_append_drop]
  · rintro ⟨y, rfl, v, hv, he, rfl⟩
    refine ⟨v, hv, he, ?_⟩
    rw [← List.append_assoc, List.take_append_drop]
    rfl

theorem take_ok (hb : f.IsBehind) (h : f.take want = .ok (t, f')) : f.Takes want t f' := by
  unfold take at h
  split at h
  next => cases h
  next g hg =>
    cases h
    obtain ⟨hlead, hend⟩ := fill_ok hb (.inl (Nat.le_refl _)) hg
    refine ⟨fun x => (hlead.gives x).trans (gives_drop g want x), hlead.behind, ?_, ?_⟩
    · have hroom := hlead.room
      simp only [room, held, List.length_take, List.length_drop] at hroom ⊢
      omega
    · rw [List.length_take]
      rcases Nat.lt_or_ge g.ready.length want with hlt | hge
      · have hspent := hend.resolve_left (Nat.not_le_of_lt hlt)
        exact .inr ⟨hspent, List.drop_eq_nil_of_le (Nat.le_of_lt hlt)⟩
      · exact .inl (Nat.min_eq_left hge)

theorem IsSpent.room_eq (h : f.IsSpent) (hr : f.ready = []) : f.room = 0 := by
  rw [room, hr, h.octets_eq, h.2]
  rfl

theorem Takes.append {g : Feed} {more : Nat} (h : f.Takes want t f') (h' : f'.Takes more u g)
    (hm : 0 < more) : f.Takes (want + more) (t ++ u) g where
  gives x := by
    rw [h.gives]
    constructor
    · rintro ⟨y, rfl, hy⟩
      obtain ⟨z, rfl, hz⟩ := (h'.gives y).mp hy
      exact ⟨z, (List.append_assoc t u z).symm, hz⟩
    · rintro ⟨z, rfl, hz⟩
      exact ⟨u ++ z, List.append_assoc t u z, (h'.gives _).mpr ⟨z, rfl, hz⟩⟩
  behind := h'.behind
  room := by
    have hroom := h.room
    have hroom' := h'.room
    rw [List.length_append]
    omega
  full := by
    rcases h'.full with hu | hspent
    · rcases h.full with ht | ⟨hs, hready⟩
      · exact .inl (by rw [List.length_append, ht, hu])
      · have hroom := h'.room
        rw [hs.room_eq hready] at hroom
        omega
    · exact .inr hspent

end SubtreePartition.Feed
