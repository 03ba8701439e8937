import Mathlib.Data.List.Forall2
import SubtreePartition.Proofs.Gzip.Writer
import SubtreePartition.Proofs.Store.Content
import SubtreePartition.Proofs.Store.Lines

namespace SubtreePartition.Store

def written : Compression → List Bytes → Bytes
  | .none, chunks => chunks.flatten
  | .gzip, chunks => (Gzip.Writer.after chunks).close

theorem written_eq_encode (c : Compression) (chunks : List Bytes) :
    written c chunks = encode c chunks.flatten := by
  cases c with
  | none => rfl
  | gzip => exact Gzip.Writer.close_after chunks

/-- A compressed store from which `content` is read, and that states its length. -/
structure Packs (bytes content : Bytes) : Prop where
  reads : content? .gzip bytes = some content
  states : statedSize bytes = .ok (content.length % 2 ^ 32)

theorem packs_written (chunks : List Bytes) : Packs (written .gzip chunks) chunks.flatten := by
  rw [written_eq_encode]
  exact ⟨content?_encode .gzip _, statedSize_of_isMember (Gzip.isMember_write _)⟩

/-- A store as some writer leaves it: what has gone into it, or one member that holds it. -/
def IsWritten : Compression → Bytes → Bytes → Prop
  | .none, bytes, content => bytes = content
  | .gzip, bytes, content => Gzip.IsMember bytes content

theorem isWritten_written (c : Compression) (chunks : List Bytes) :
    IsWritten c (written c chunks) chunks.flatten := by
  rw [written_eq_encode]
  cases c with
  | none => rfl
  | gzip => exact Gzip.isMember_write _

variable {stores contents : List Bytes}

theorem content?_joined {c : Compression} (h : List.Forall₂ (IsWritten c) stores contents) :
    content? c stores.flatten = some contents.flatten := by
  cases c with
  | none =>
    have heq : stores = contents := by
      rw [← List.forall₂_eq_eq_eq]
      exact h
    rw [heq, content?]
  | gzip => rw [content?, Gzip.read_members h]

theorem take_magic_joined (h : List.Forall₂ Gzip.IsMember stores contents) (hne : contents ≠ []) :
    stores.flatten.take 2 = Gzip.magic := by
  cases h with
  | nil => exact absurd rfl hne
  | cons hm _ =>
    obtain ⟨hmagic, front, tail, rfl, hfront, -⟩ := Gzip.exists_trailer_of_isMember hm
    rw [List.flatten_cons, List.take_append_of_le_length, hmagic]
    rw [List.length_append]
    omega

theorem statedSize_joined (h : List.Forall₂ Gzip.IsMember stores contents) (hne : contents ≠ []) :
    statedSize stores.flatten = .ok ((contents.getLast hne).length % 2 ^ 32) := by
  have hmagic := take_magic_joined h hne
  have hsplit := List.dropLast_concat_getLast hne
  generalize contents.getLast hne = last at hsplit ⊢
  generalize contents.dropLast = front at hsplit
  subst hsplit
  have hlast := List.forall₂_drop_append stores front [last] h
  rw [List.forall₂_cons_right_iff] at hlast
  obtain ⟨bytes, rest, hm, hrest, hdrop⟩ := hlast
  obtain rfl := List.forall₂_nil_right_iff.mp hrest
  have hstores : stores.flatten = (stores.take front.length).flatten ++ bytes := by
    have hboth := List.take_append_drop front.length stores
    rw [hdrop] at hboth
    simpa using (congrArg List.flatten hboth).symm
  rw [hstores] at hmagic ⊢
  exact statedSize_append hm hmagic

theorem stream_joined (members : List (List Bytes)) (h : members ≠ []) :
    (∀ c, List.Forall₂ (IsWritten c) (members.map (written c)) (members.map List.flatten)) ∧
      (∀ loss c stores, List.Forall₂ (IsWritten c) stores (members.map List.flatten) →
        ∃ lines, stream loss c stores.flatten = ⟨lines, none⟩ ∧
          LinesOf members.flatten.flatten lines) ∧
      ∀ t p stores, List.Forall₂ (IsWritten .gzip) stores (members.map List.flatten) →
        FileTree.read t p = .ok stores.flatten →
          size .gzip t p = .ok ((members.getLast h).flatten.length % 2 ^ 32) := by
  refine ⟨fun c => ?_, fun loss c stores hs => ?_, fun t p stores hs hr => ?_⟩
  · rw [List.forall₂_map_left_iff, List.forall₂_map_right_iff]
    exact List.forall₂_same.mpr fun chunks _ => isWritten_written c chunks
  · have hcontent := content?_joined hs
    rw [List.flatten_flatten] at *
    exact ⟨_, stream_of_content? loss hcontent, linesOf_lines _⟩
  · have hne : members.map List.flatten ≠ [] := by simpa using h
    have hstated := statedSize_joined hs hne
    rw [List.getLast_map] at hstated
    rw [size, hr]
    exact hstated

def brokenMembers : List (List Bytes) :=
  [[[97, 10], [], [98]], [], [[99], [10, 10]]]

def brokenStore (c : Compression) : Bytes :=
  (brokenMembers.map (written c)).flatten

def treeOfMembers : FileTree :=
  { nodes := [(["store"], .file (brokenStore .gzip))] }

theorem stream_joined_broken :
    brokenMembers ≠ [] ∧
      (∀ loss c, ∃ lines, stream loss c (brokenStore c) = ⟨lines, none⟩ ∧
        LinesOf [97, 10, 98, 99, 10, 10] lines) ∧
      size .gzip treeOfMembers ⟨1, ["store"]⟩ = .ok 3 := by
  have h : brokenMembers ≠ [] := by decide
  obtain ⟨hwritten, hlines, hsize⟩ := stream_joined brokenMembers h
  have hread : treeOfMembers.read ⟨1, ["store"]⟩ = .ok (brokenStore .gzip) := by
    decide +kernel
  exact ⟨h, fun loss c => hlines loss c _ (hwritten c),
    hsize treeOfMembers _ _ (hwritten .gzip) hread⟩

end SubtreePartition.Store
