import SubtreePartition.Proofs.Json.RoundTrip
import SubtreePartition.Proofs.Record.Path

namespace SubtreePartition.Record

variable {path field : Text} {members : List (Text × Json.Value)} {lineEnd : Bytes}

def line (path : Text) (members : List (Text × Json.Value)) : Text :=
  path ++ separator :: Json.written (.object members)

def stored (path : Text) (members : List (Text × Json.Value)) (lineEnd : Bytes) : Bytes :=
  Utf8.encode (line path members) ++ lineEnd

theorem isScalar_line (hp : path.IsScalar) (hm : Json.IsPlain (.object members)) :
    (line path members).IsScalar :=
  Text.isScalar_append.mpr ⟨hp, Text.isScalar_cons.mpr ⟨by decide, hm.isAscii_written.isScalar⟩⟩

theorem exists_line (path : Text) (members : List (Text × Json.Value)) :
    ∃ front, line path members = front ++ [125] := by
  refine ⟨path ++ separator :: 123 :: Text.intercalate [44] (Json.writtenMembers members), ?_⟩
  rw [line, Json.written, List.append_assoc]
  rfl

theorem isLineEnd_of_mem (he : lineEnd = [] ∨ lineEnd = [10] ∨ lineEnd = [13, 10]) :
    ∀ b ∈ lineEnd, isLineEnd b = true := by
  rcases he with rfl | rfl | rfl <;> simp [isLineEnd]

theorem decodeLine_stored (hp : path.IsScalar) (hm : Json.IsPlain (.object members))
    (he : ∀ b ∈ lineEnd, isLineEnd b = true) :
    decodeLine (stored path members lineEnd) = line path members := by
  obtain ⟨front, hfront⟩ := exists_line path members
  have hencode : Utf8.encode (line path members) = Utf8.encode front ++ [125] := by
    rw [hfront, Utf8.encode, List.flatMap_append]
    rfl
  have hdrop : Text.dropRight isLineEnd (stored path members lineEnd) =
      Utf8.encode (line path members) := by
    rw [stored, hencode, List.append_assoc]
    exact Text.dropRight_append (by decide) he
  rw [decodeLine, hdrop, Utf8.decode_encode (isScalar_line hp hm)]

theorem splitLine_line (hs : path.head? = some Text.slash) (hb : separator ∉ path) :
    splitLine (line path members) = .ok (path, Json.written (.object members)) := by
  rw [line, splitLine_append_cons hb, if_pos hs]

theorem ofRaw_stored (field : Text) (hp : path.IsScalar) (hs : path.head? = some Text.slash)
    (hb : separator ∉ path) (hm : Json.IsPlain (.object members))
    (he : ∀ b ∈ lineEnd, isLineEnd b = true) :
    ofRaw field (stored path members lineEnd) =
      .ok { path := path, category := categoryOf (Json.member? field members) } := by
  rw [ofRaw, decodeLine_stored hp hm he, read, splitLine_line hs hb]
  simp only [bind, Except.bind, Json.read_written hm]

theorem categoryOf_named (c : Text) : categoryOf (some (.text (nameMark ++ c))) = c := by
  have hprefix : nameMark.isPrefixOf (nameMark ++ c) = true :=
    List.isPrefixOf_iff_prefix.mpr (List.prefix_append _ _)
  rw [categoryOf, if_pos hprefix, List.drop_left]

theorem categoryOf_unnamed {t : Text} (h : ¬ nameMark <+: t) :
    categoryOf (some (.text t)) = t := by
  rw [categoryOf, if_neg (mt List.isPrefixOf_iff_prefix.mp h)]

theorem categoryOf_other {v : Json.Value} (h : ∀ t, v ≠ .text t) : categoryOf (some v) = [] := by
  cases v with
  | text t => exact absurd rfl (h t)
  | _ => rfl

/-- A stored line gives the record of its path, with the category that one of its members names,
whatever stands in the others. -/
structure ReadsBack (field path : Text) (members : List (Text × Json.Value)) (lineEnd : Bytes) :
    Prop where
  absent : Json.member? field members = none →
    ofRaw field (stored path members lineEnd) = .ok { path := path, category := [] }
  other : ∀ v, Json.member? field members = some v → (∀ t, v ≠ .text t) →
    ofRaw field (stored path members lineEnd) = .ok { path := path, category := [] }
  named : ∀ c, Json.member? field members = some (.text (nameMark ++ c)) →
    ofRaw field (stored path members lineEnd) = .ok { path := path, category := c }
  unnamed : ∀ t, Json.member? field members = some (.text t) → ¬ nameMark <+: t →
    ofRaw field (stored path members lineEnd) = .ok { path := path, category := t }
  alone : ∀ others, Json.IsPlain (.object others) →
    Json.member? field others = Json.member? field members →
      ofRaw field (stored path others lineEnd) = ofRaw field (stored path members lineEnd)

theorem stored_readsBack (field : Text) (hp : path.IsScalar)
    (hs : path.head? = some Text.slash) (hb : separator ∉ path)
    (hm : Json.IsPlain (.object members))
    (he : lineEnd = [] ∨ lineEnd = [10] ∨ lineEnd = [13, 10]) :
    ReadsBack field path members lineEnd := by
  have hend := isLineEnd_of_mem he
  have hraw := ofRaw_stored field hp hs hb hm hend
  constructor
  · intro h
    rw [hraw, h]
    rfl
  · intro v h hv
    rw [hraw, h, categoryOf_other hv]
  · intro c h
    rw [hraw, h, categoryOf_named]
  · intro t h ht
    rw [hraw, h, categoryOf_unnamed ht]
  · intro others hothers h
    rw [hraw, ofRaw_stored field hp hs hb hothers hend, h]

def accentedPath : Text :=
  "/é/😀"

def nestedMembers : List (Text × Json.Value) :=
  [("a|b", .array [.object [(defaultField, .integer (-10))], .null, .text "\"|\\é😀\n"]),
    (defaultField, .text (nameMark ++ (nameMark ++ ("x" : Text))))]

theorem isPlain_nestedMembers : Json.IsPlain (.object nestedMembers) := by
  have hinner : Json.IsPlain (.object [(defaultField, .integer (-10))]) := by
    refine .object (by decide) ?_
    rw [List.forall_mem_singleton]
    exact .integer (by decide)
  have hitems : Json.IsPlain
      (.array [.object [(defaultField, .integer (-10))], .null, .text "\"|\\é😀\n"]) := by
    refine .array ?_
    rw [List.forall_mem_cons, List.forall_mem_cons, List.forall_mem_singleton]
    exact ⟨hinner, .null, .text (by decide)⟩
  refine .object (by decide) ?_
  rw [nestedMembers, List.forall_mem_cons, List.forall_mem_singleton]
  exact ⟨hitems, .text (by decide)⟩

theorem stored_readsBack_nested :
    ReadsBack defaultField accentedPath nestedMembers [13, 10] ∧
      ofRaw defaultField (stored accentedPath nestedMembers [13, 10]) =
        .ok { path := accentedPath, category := nameMark ++ ("x" : Text) } := by
  have hp : accentedPath.IsScalar := by decide
  have hs : accentedPath.head? = some Text.slash := by decide
  have hb : separator ∉ accentedPath := by decide
  have h := stored_readsBack defaultField hp hs hb isPlain_nestedMembers (.inr (.inr rfl))
  exact ⟨h, h.named _ rfl⟩

end SubtreePartition.Record
