import Mathlib.Data.List.Forall2
import ServoScript.Proofs.StoreRoundTrip

/-!
# Saving replaces the sequences and nothing else

The document of a store is kept as it is, with its members in their order, but for the one member that
holds the sequences. It is replaced in its place, or comes last if there was none, by a new object with one
entry for each sequence and each frame. What the old one held leaves no trace, so that saving again
changes nothing.
-/

namespace ServoScript

namespace Json

theorem put_of_split {key : Text} {before : Members} (h : key ∉ before.map Prod.fst) (value old : Json)
    (behind : Members) :
    put key value (before ++ (key, old) :: behind) = before ++ (key, value) :: behind := by
  induction before with
  | nil => simp [put]
  | cons m rest ih =>
    simp only [List.map_cons, List.mem_cons, not_or] at h
    rw [List.cons_append, put, if_neg (Ne.symm h.1), ih h.2]
    rfl

theorem put_put (key : Text) (value old : Json) (members : Members) :
    put key value (put key old members) = put key value members := by
  induction members with
  | nil => simp [put]
  | cons m rest ih =>
    obtain ⟨k, v⟩ := m
    by_cases hkey : k = key
    · simp [put, hkey]
    · simp [put, hkey, ih]

end Json

namespace Store

/-- Members that hold the items of a list in its order, one each, under different keys. -/
structure Entries {α : Type} (Holds : α → Json → Prop) (items : List α) (members : Json.Members) :
    Prop where
  nodup : (members.map Prod.fst).Nodup
  each : List.Forall₂ (fun item m => Holds item m.2) items members

def HoldsFrame (f : Frame) (node : Json) : Prop :=
  node = .object [("name", .text f.name), ("duration", .int f.duration),
    ("targets", .text (Frame.targetsText f.targets))]

/-- A node that holds a sequence with its frames. -/
def HoldsSequence (s : Sequence) (node : Json) : Prop :=
  ∃ frames, Entries HoldsFrame s.frames frames ∧
    node = .object [("name", .text s.name), ("frames", .object frames)]

theorem entries_numberedMembers {α : Type} {Holds : α → Json → Prop} {node : α → Json}
    (h : ∀ a, Holds a (node a)) (width : Nat) (items : List α) :
    Entries Holds items (numberedMembers width (items.map node)) where
  nodup := nodup_keys_numberedMembers width _
  each := by
    have hnodes : (numberedMembers width (items.map node)).map Prod.snd = items.map node := by
      rw [numberedMembers, List.map_map]
      exact List.zipIdx_map_fst 0 (items.map node)
    have heach : List.Forall₂ Holds items ((numberedMembers width (items.map node)).map Prod.snd) := by
      rw [hnodes, List.forall₂_map_right_iff, List.forall₂_same]
      exact fun a _ => h a
    rwa [List.forall₂_map_right_iff] at heach

theorem holdsFrame_nodeOfFrame (f : Frame) : HoldsFrame f (nodeOfFrame f) :=
  rfl

theorem holdsSequence_nodeOf (s : Sequence) : HoldsSequence s (nodeOf s) :=
  ⟨_, entries_numberedMembers holdsFrame_nodeOfFrame 4 s.frames, rfl⟩

variable {sequences : List Sequence} {file after : File}

theorem tree_of_document {members : Json.Members} (h : file.document = .ok (.object members)) :
    tree file = members := by
  rw [tree, h]

theorem tree_of_no_object (h : ∀ members, file.document ≠ .ok (.object members)) : tree file = [] := by
  rw [tree]
  split
  · next members hdocument => exact absurd hdocument (h members)
  · rfl

theorem write_eq_ok {t : Text} (h : file.write t = .ok after) :
    after = file.withState (.octets (Utf8.encode t)) := by
  unfold File.write at h
  split at h
  · cases h
  · cases h
  · exact (Except.ok.inj h).symm

theorem exists_document {v : Json} (h : v.Readable) :
    ∃ file content, file.state = .octets content ∧ File.document file = .ok v := by
  have hw : (⟨"root", "store", "sequences.json", .missing⟩ : File).write v.spread =
      .ok ⟨"root", "store", "sequences.json", .octets (Utf8.encode v.spread)⟩ := rfl
  exact ⟨_, _, rfl, File.document_write h hw⟩

theorem exists_save (h : ∀ s ∈ sequences, ∀ f ∈ s.frames, f.Writable) (hblocked : file.state ≠ .blocked)
    (hfolder : file.state ≠ .folder) : ∃ after, save sequences file = .ok after := by
  rw [save_eq_write h, File.write]
  split
  · next hstate => exact absurd hstate hblocked
  · next hstate => exact absurd hstate hfolder
  · exact ⟨_, rfl⟩

/-- The text of a file that was saved is the one that is written when it is saved again. -/
theorem save_save (hs : save sequences file = .ok after) : save sequences after = .ok after := by
  have hwritable := writable_of_save hs
  have htree : savedTree sequences (tree after) = savedTree sequences (tree file) := by
    rw [tree_save hs, savedTree, savedTree, Json.put_put, savedTree]
  rw [save_eq_write hwritable] at hs ⊢
  rw [htree, write_eq_ok hs]
  rfl

/-- Saving replaces the sequences of a document by an object with one entry for each sequence, and in it one
for each frame, that depends on nothing else; the names have the halves of a character joined. All other
members keep their place and their value, a document that is no object is replaced by one with the
sequences alone, and saving again does not change the file. Saving succeeds if the numbers are not too long
and a file can be at the path. -/
theorem save_replaces (sequences : List Sequence) :
    ∃ nodes, Entries HoldsSequence (sequences.map Sequence.joinHalves) nodes ∧
      ((∀ s ∈ sequences, s.IsJoined) → Entries HoldsSequence sequences nodes) ∧
      ∀ file, ((∀ s ∈ sequences, ∀ f ∈ s.frames, f.Writable) → file.state ≠ .blocked →
          file.state ≠ .folder → ∃ after, save sequences file = .ok after) ∧
      ∀ after, save sequences file = .ok after →
        (∀ before old behind, file.document = .ok (.object (before ++ (sequencesKey, old) :: behind)) →
          sequencesKey ∉ (before ++ behind).map Prod.fst ∧
          after.document = .ok (.object (before ++ (sequencesKey, .object nodes) :: behind))) ∧
        (∀ members, file.document = .ok (.object members) → sequencesKey ∉ members.map Prod.fst →
          after.document = .ok (.object (members ++ [(sequencesKey, .object nodes)]))) ∧
        ((∀ members, file.document ≠ .ok (.object members)) →
          after.document = .ok (.object [(sequencesKey, .object nodes)])) ∧
        save sequences after = .ok after := by
  have hentries := entries_numberedMembers holdsSequence_nodeOf 2 (sequences.map Sequence.joinHalves)
  refine ⟨_, hentries, fun hjoined => ?_, fun file => ⟨exists_save, fun after hs => ?_⟩⟩
  · rwa [map_eq_self fun s hs => Sequence.joinHalves_eq_self (hjoined s hs)] at hentries ⊢
  have hafter := document_save hs
  rw [savedTree, numbered_eq_object] at hafter
  refine ⟨fun before old behind hdocument => ?_, fun members hdocument habsent => ?_,
    fun hno => ?_, save_save hs⟩
  · have htree := tree_of_document hdocument
    have hnodup := (readable_tree file).nodup_keys
    rw [htree] at hnodup
    have hmiddle : (sequencesKey :: (before ++ behind).map Prod.fst).Nodup := by
      rw [List.map_append, List.map_cons] at hnodup
      rw [List.map_append]
      exact List.nodup_middle.1 hnodup
    have habsent := (List.nodup_cons.1 hmiddle).1
    refine ⟨habsent, ?_⟩
    rw [hafter, htree, Json.put_of_split]
    exact fun hmem => habsent (by rw [List.map_append]; exact List.mem_append_left _ hmem)
  · rw [hafter, tree_of_document hdocument, Json.put_of_not_mem habsent]
  · rw [hafter, tree_of_no_object hno]
    rfl

/-- A number and a list that stand around the sequences in a file stay where they are, and so do two lone
halves. -/
theorem save_replaces_middle : ∃ file after nodes,
    file.document = .ok (.object [("version", .float (.finite false 6755399441055744 1022)),
      ([.half 0], .int 1), ("sequences", .text "old"), ("tool", .list [.null]), ([.half 1024], .int 2)]) ∧
    save [⟨"A", [⟨"f", -7, [70000]⟩, ⟨"f", 0, []⟩]⟩, ⟨"A", []⟩] file = .ok after ∧
    Entries HoldsSequence [⟨"A", [⟨"f", -7, [70000]⟩, ⟨"f", 0, []⟩]⟩, ⟨"A", []⟩] nodes ∧
    after.document = .ok (.object [("version", .float (.finite false 6755399441055744 1022)),
      ([.half 0], .int 1), ("sequences", .object nodes), ("tool", .list [.null]),
      ([.half 1024], .int 2)]) := by
  have hreadable : (Json.object [("version", .float (.finite false 6755399441055744 1022)),
      ([.half 0], .int 1), ("sequences", .text "old"), ("tool", .list [.null]),
      ([.half 1024], .int 2)]).Readable := by
    refine .object (by decide) ?_ ?_
    all_goals simp only [List.forall_mem_cons, List.not_mem_nil, false_implies, implies_true, and_true]
    · decide
    exact ⟨.float ⟨by decide, by decide, by decide⟩, .int (by decide +kernel), .text (by decide),
      .list fun v hv => by rw [List.mem_singleton.1 hv]; exact .null, .int (by decide +kernel)⟩
  have hwritable : ∀ s ∈ ([⟨"A", [⟨"f", -7, [70000]⟩, ⟨"f", 0, []⟩]⟩, ⟨"A", []⟩] : List Sequence),
      ∀ f ∈ s.frames, f.Writable := by
    simp only [List.forall_mem_cons, List.not_mem_nil, false_implies, implies_true, and_true]
    exact ⟨⟨by decide +kernel, by decide +kernel⟩, ⟨by decide +kernel, by decide +kernel⟩⟩
  have hjoined : ∀ s ∈ ([⟨"A", [⟨"f", -7, [70000]⟩, ⟨"f", 0, []⟩]⟩, ⟨"A", []⟩] : List Sequence),
      s.IsJoined := by
    simp only [List.forall_mem_cons, List.not_mem_nil, false_implies, implies_true, and_true]
    exact ⟨⟨by decide, by decide⟩, ⟨by decide, by decide⟩⟩
  obtain ⟨file, content, hstate, hdocument⟩ := exists_document hreadable
  obtain ⟨nodes, _, hnodes, hsave⟩ :=
    save_replaces [⟨"A", [⟨"f", -7, [70000]⟩, ⟨"f", 0, []⟩]⟩, ⟨"A", []⟩]
  obtain ⟨hsuccess, hreplaces⟩ := hsave file
  obtain ⟨after, hs⟩ := hsuccess hwritable (by simp [hstate]) (by simp [hstate])
  exact ⟨file, after, nodes, hdocument, hs, hnodes hjoined,
    ((hreplaces after hs).1 [_, _] _ [_, _] hdocument).2⟩

end Store

end ServoScript
