import SubtreePartition.Proofs.Ancestry.Follow
import SubtreePartition.Proofs.Record.Path
import SubtreePartition.Proofs.Text.Escape

namespace SubtreePartition

namespace Record

open Text

variable {raw octets front back path : Bytes} {r : Record}

def withoutEnd (raw : Bytes) : Bytes :=
  dropRight isLineEnd raw

def pathOctets (octets : Bytes) : Bytes :=
  octets.takeWhile (· ≠ 0x7C)

def payloadOctets (octets : Bytes) : Bytes :=
  (octets.dropWhile (· ≠ 0x7C)).tail

def nameOctets (path : Bytes) : List Bytes :=
  (path.splitOn 0x2F).filter (· ≠ [])

theorem decodeLine_eq (raw : Bytes) : decodeLine raw = Utf8.decode (withoutEnd raw) := rfl

theorem pathOctets_append (h : 0x7C ∉ front) (back : Bytes) :
    pathOctets (front ++ 0x7C :: back) = front :=
  takeWhile_ne_append_cons h back

theorem payloadOctets_append (h : 0x7C ∉ front) (back : Bytes) :
    payloadOctets (front ++ 0x7C :: back) = back := by
  rw [payloadOctets, dropWhile_ne_append_cons h, List.tail_cons]

theorem head?_decode_slash : (Utf8.decode path).head? = some slash ↔ path.head? = some 0x2F := by
  constructor
  · intro h
    obtain ⟨t, ht⟩ := List.head?_eq_some_iff.mp h
    have hencode := Utf8.encode_decode path
    rw [ht, Utf8.encode_cons] at hencode
    rw [← hencode]
    rfl
  · intro h
    obtain ⟨more, rfl⟩ := List.head?_eq_some_iff.mp h
    have hdecode := Utf8.decode_append_ascii (a := 0x2F) (by decide) [] more
    rw [List.nil_append] at hdecode
    rw [hdecode]
    rfl

theorem splitLine_decode (h : 0x7C ∉ front) (back : Bytes) :
    splitLine (Utf8.decode (front ++ 0x7C :: back)) =
      if front.head? = some 0x2F then .ok (Utf8.decode front, Utf8.decode back)
      else .error (.malformed (Utf8.decode (front ++ 0x7C :: back)) .relativePath) := by
  have hdecode : Utf8.decode (front ++ 0x7C :: back) =
      Utf8.decode front ++ separator :: Utf8.decode back :=
    Utf8.decode_append_ascii (by decide) front back
  have hmem : separator ∉ Utf8.decode front :=
    mt (Utf8.mem_decode_ascii (a := 0x7C) (by decide)).mp h
  rw [hdecode, splitLine_append_cons hmem]
  simp only [head?_decode_slash]

theorem splitLine_decode_of_not_mem (h : 0x7C ∉ octets) :
    splitLine (Utf8.decode octets) = .error (.malformed (Utf8.decode octets) .noSeparator) :=
  splitLine_of_not_mem (mt (Utf8.mem_decode_ascii (a := 0x7C) (by decide)).mp h)

theorem head?_front (front back : Bytes) :
    (front ++ 0x7C :: back).head? = some 0x2F ↔ front.head? = some 0x2F := by
  cases front with
  | nil => simp
  | cons a front => simp

theorem splitLine_decode_eq_ok_iff {parts : Text × Text} :
    splitLine (Utf8.decode octets) = .ok parts ↔
      (octets.head? = some 0x2F ∧ 0x7C ∈ octets) ∧
        parts = (Utf8.decode (pathOctets octets), Utf8.decode (payloadOctets octets)) := by
  by_cases hm : 0x7C ∈ octets
  · obtain ⟨front, back, rfl, hf⟩ := List.eq_append_cons_of_mem hm
    rw [splitLine_decode hf, pathOctets_append hf, payloadOctets_append hf, head?_front]
    split
    next hs => simp [hs, eq_comm]
    next hs => simp [hs]
  · rw [splitLine_decode_of_not_mem hm]
    simp [hm]

theorem segmentsOf_decode (path : Bytes) :
    segmentsOf (Utf8.decode path) = (nameOctets path).map Utf8.decode := by
  have hpieces : pieces slash (Utf8.decode path) = (path.splitOn 0x2F).map Utf8.decode :=
    Utf8.pieces_decode (a := 0x2F) (by decide) path
  rw [segmentsOf, hpieces, List.filter_map, nameOctets]
  congr 1
  refine List.filter_congr fun piece _ => ?_
  simp [Utf8.decode_eq_nil_iff]

/-- The octets of a line and its text tell the same: nothing is lost, and both are split alike. -/
structure TellsSame (raw octets : Bytes) : Prop where
  stripped : ∃ lineEnd, raw = octets ++ lineEnd ∧ (∀ b ∈ lineEnd, b = 0x0A ∨ b = 0x0D) ∧
    ∀ b, octets.getLast? = some b → ¬ (b = 0x0A ∨ b = 0x0D)
  whole : Utf8.encode? (decodeLine raw) = some octets
  splits : (∃ parts, splitLine (decodeLine raw) = .ok parts) ↔
    octets.head? = some 0x2F ∧ 0x7C ∈ octets
  parts : ∀ path payload, splitLine (decodeLine raw) = .ok (path, payload) →
    Utf8.encode? path = some (pathOctets octets) ∧
      Utf8.encode? payload = some (payloadOctets octets) ∧
      (segmentsOf path).map Utf8.encode? = (nameOctets (pathOctets octets)).map some

theorem isLineEnd_iff {b : UInt8} : isLineEnd b = true ↔ b = 0x0A ∨ b = 0x0D := by
  simp [isLineEnd]

theorem tellsSame_withoutEnd (raw : Bytes) : TellsSame raw (withoutEnd raw) where
  stripped := by
    obtain ⟨lineEnd, hsplit, hend, hlast⟩ := exists_dropRight isLineEnd raw
    refine ⟨lineEnd, hsplit, fun b hb => isLineEnd_iff.mp (hend b hb), fun b hb => ?_⟩
    rw [← isLineEnd_iff, hlast b hb]
    exact Bool.false_ne_true
  whole := by rw [decodeLine_eq, Utf8.encode?_decode]
  splits := by
    rw [decodeLine_eq]
    constructor
    · rintro ⟨parts, h⟩
      exact (splitLine_decode_eq_ok_iff.mp h).1
    · intro h
      exact ⟨_, splitLine_decode_eq_ok_iff.mpr ⟨h, rfl⟩⟩
  parts := by
    intro path payload h
    rw [decodeLine_eq] at h
    obtain ⟨rfl, rfl⟩ := Prod.mk.inj (splitLine_decode_eq_ok_iff.mp h).2
    refine ⟨Utf8.encode?_decode _, Utf8.encode?_decode _, ?_⟩
    rw [segmentsOf_decode, List.map_map]
    exact List.map_congr_left fun name _ => Utf8.encode?_decode name

def lineNames (raw : Bytes) : List Bytes :=
  nameOctets (pathOctets (withoutEnd raw))

def IsAtPathOf (r : Record) (raw : Bytes) : Prop :=
  ∃ payload, splitLine (decodeLine raw) = .ok (r.path, payload)

theorem IsAtPathOf.segments_eq (h : r.IsAtPathOf raw) :
    r.segments = (lineNames raw).map Utf8.decode := by
  obtain ⟨payload, h⟩ := h
  rw [decodeLine_eq] at h
  have hpath := (Prod.mk.inj (splitLine_decode_eq_ok_iff.mp h).2).1
  rw [segments, hpath, segmentsOf_decode]
  rfl

theorem map_encode_decode (names : List Bytes) :
    (names.map Utf8.decode).map Utf8.encode = names := by
  rw [List.map_map]
  exact (List.map_congr_left fun name _ => Utf8.encode_decode name).trans (List.map_id _)

theorem enterEach_of_lines (mode : OrderMode) {lines : List (Bytes × Record)}
    (h : ∀ l ∈ lines, l.2.IsAtPathOf l.1) :
    (Ancestry.enterEach mode [] (lines.map Prod.snd)).map
        (fun s => (s.1.segments, s.2.isNone)) =
      (Ancestry.followAll mode [] (lines.map fun l => lineNames l.1)).map
        fun s => (s.1.map Utf8.decode, s.2) := by
  have hrows : (lines.map Prod.snd).map segments =
      (lines.map fun l => lineNames l.1).map (List.map Utf8.decode) := by
    rw [List.map_map, List.map_map]
    exact List.map_congr_left fun l hl => (h l hl).segments_eq
  have htexts := Ancestry.followAll_segments mode [] (lines.map Prod.snd)
  rw [hrows] at htexts
  exact htexts.symm.trans (Ancestry.followAll_map Utf8.decode_injective mode [] _)

theorem enterEach_octets (mode : OrderMode) {lines : List (Bytes × Record)}
    (h : ∀ l ∈ lines, l.2.IsAtPathOf l.1) :
    (Ancestry.enterEach mode [] (lines.map Prod.snd)).map
        (fun s => (s.1.segments.map Utf8.encode, s.2.isNone)) =
      Ancestry.followAll mode [] (lines.map fun l => lineNames l.1) := by
  have hsteps := congrArg (List.map fun s => (s.1.map Utf8.encode, s.2)) (enterEach_of_lines mode h)
  rw [List.map_map, List.map_map] at hsteps
  refine hsteps.trans ((List.map_congr_left fun s _ => ?_).trans (List.map_id _))
  exact congrArg (fun names => (names, s.2)) (map_encode_decode s.1)

theorem decodeLine_faithful :
    (∀ raw, TellsSame raw (withoutEnd raw)) ∧
      (∀ raw raw', decodeLine raw = decodeLine raw' ↔ withoutEnd raw = withoutEnd raw') ∧
      ∀ mode (lines : List (Bytes × Record)), (∀ l ∈ lines, l.2.IsAtPathOf l.1) →
        (Ancestry.enterEach mode [] (lines.map Prod.snd)).map
            (fun s => (s.1.segments.map Utf8.encode, s.2.isNone)) =
          Ancestry.followAll mode [] (lines.map fun l => lineNames l.1) := by
  refine ⟨tellsSame_withoutEnd, ?_, fun mode lines => enterEach_octets mode⟩
  intro raw raw'
  rw [decodeLine_eq, decodeLine_eq]
  exact Utf8.decode_injective.eq_iff

def brokenLines : List (Bytes × Record) :=
  [([0x2F, 0xE2, 0x82, 0x7C, 0xC0, 0x0D, 0x0A], ⟨[47, 0xDCE2, 0xDC82], []⟩),
    ([0x2F, 0xE2, 0x82, 0x2F, 0xED, 0xA0, 0x80, 0x7C, 0x0A],
      ⟨[47, 0xDCE2, 0xDC82, 47, 0xDCED, 0xDCA0, 0xDC80], []⟩),
    ([0x2F, 0xE2, 0x2F, 0x82, 0x7C], ⟨[47, 0xDCE2, 47, 0xDC82], []⟩)]

theorem decodeLine_faithful_broken :
    (∀ l ∈ brokenLines, l.2.IsAtPathOf l.1) ∧
      (∀ l ∈ brokenLines, TellsSame l.1 (withoutEnd l.1)) ∧
      (Ancestry.enterEach .strict [] (brokenLines.map Prod.snd)).map
          (fun s => (s.1.segments.map Utf8.encode, s.2.isNone)) =
        [([[0xE2, 0x82]], true), ([[0xE2, 0x82], [0xED, 0xA0, 0x80]], true),
          ([[0xE2, 0x82]], false)] := by
  have hpaths : ∀ l ∈ brokenLines, l.2.IsAtPathOf l.1 := by
    rw [brokenLines, List.forall_mem_cons, List.forall_mem_cons, List.forall_mem_singleton]
    exact ⟨⟨[0xDCC0], by decide⟩, ⟨[], by decide⟩, ⟨[], by decide⟩⟩
  obtain ⟨htells, -, hchain⟩ := decodeLine_faithful
  refine ⟨hpaths, fun l _ => htells l.1, ?_⟩
  rw [hchain .strict brokenLines hpaths]
  decide

end Record

end SubtreePartition
