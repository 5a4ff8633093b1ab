import Mathlib.Data.List.Forall2
import ServoScript.Proofs.StoreRoundTrip

/-!
# Every file is read as a store

Whatever is at the path of a store, reading it gives one sequence for each object among the entries of the
sequences, in their order, and for each object among the entries of its frames one frame of words. Frames
may change their order, but none is lost and none comes twice. Only the targets must have room.
-/

namespace ServoScript

namespace Store

open ServoScript.Frame (targetCount_of_room targetCount_of_no_room)

/-- The document in a file; null, if it cannot be read. -/
def content (file : File) : Json :=
  match file.document with
  | .ok v => v
  | .error _ => .null

/-- The entries of an object that are objects, with their keys. -/
def objects (members : Json.Members) : List (Text × Json.Members) :=
  members.filterMap fun m =>
    match m.2 with
    | .object inner => some (m.1, inner)
    | _ => none

/-- The members that a value has under a key: none, unless both it and what is there are objects. -/
def membersAt (key : Text) : Json → Json.Members
  | .object members =>
    match Json.member? key members with
    | some (.object inner) => inner
    | _ => []
  | _ => []

/-- A frame as it is read from an entry: with as many targets as are asked for, of words only, and with the
low 16 bits of the duration if it is an integer. -/
structure FrameRead (count : Nat) (entry : Text × Json.Members) (f : Frame) : Prop where
  length : f.targets.length = count
  targets : ∀ target ∈ f.targets, 0 ≤ target ∧ target ≤ 65535
  range : 0 ≤ f.duration ∧ f.duration ≤ 65535
  duration : ∀ n, Json.member? "duration" entry.2 = some (.int n) → f.duration = n % 65536
  no_duration : (∀ n, Json.member? "duration" entry.2 ≠ some (.int n)) → f.duration = 0

/-- A sequence as it is read from an entry: its frames are read from the objects among the entries of its
frames, each of them once. -/
def SequenceRead (count : Nat) (entry : Text × Json.Members) (s : Sequence) : Prop :=
  ∃ order, List.Perm order (objects (membersAt "frames" (.object entry.2))) ∧
    List.Forall₂ (FrameRead count) order s.frames

def sequenceEntries (file : File) : List (Text × Json.Members) :=
  objects (membersAt sequencesKey (content file))

def HasFrame (file : File) : Prop :=
  ∃ entry ∈ sequenceEntries file, objects (membersAt "frames" (.object entry.2)) ≠ []

theorem membersAt_content (file : File) :
    membersAt sequencesKey (content file) = membersAt sequencesKey (.object (tree file)) := by
  rw [content, tree]
  cases file.document with
  | error fault => rfl
  | ok v => cases v <;> rfl

/-! ### One entry -/

theorem frameRead_frameOf (count : Nat) (key : Text) (members : Json.Members) :
    FrameRead count (key, members) (frameOf count key members) where
  length := Frame.length_targetsOfText _ _
  targets _ ht := Frame.mem_targetsOfText ht
  range := durationOf_range members
  duration n hn := by
    change durationOf members = n % 65536
    rw [durationOf, hn]
  no_duration hno := by
    change durationOf members = 0
    rw [durationOf]
    split
    · next n hn => exact absurd hn (hno n)
    · rfl

/-- The objects among members, in the order in which their frames are read. -/
def inKeyOrder (nodes : Json.Members) : List (Text × Json.Members) :=
  (sortKeys (nodes.map Prod.fst)).filterMap fun key =>
    match Json.member? key nodes with
    | some (.object inner) => some (key, inner)
    | _ => none

theorem framesOf_eq_map (count : Nat) (nodes : Json.Members) :
    framesOf count nodes = (inKeyOrder nodes).map fun entry => frameOf count entry.1 entry.2 := by
  rw [framesOf, inKeyOrder, List.map_filterMap]
  refine List.filterMap_congr fun key _ => ?_
  cases Json.member? key nodes with
  | none => rfl
  | some node => cases node <;> rfl

/-- Every key is looked up once and finds its own entry. -/
theorem inKeyOrder_perm {nodes : Json.Members} (h : (nodes.map Prod.fst).Nodup) :
    (inKeyOrder nodes).Perm (objects nodes) := by
  have hsorted : (inKeyOrder nodes).Perm ((nodes.map Prod.fst).filterMap fun key =>
      match Json.member? key nodes with
      | some (.object inner) => some (key, inner)
      | _ => none) := (RunSort.sort_perm keyBefore _).filterMap _
  refine hsorted.trans (.of_eq ?_)
  rw [List.filterMap_map, objects]
  refine List.filterMap_congr fun m hm => ?_
  rw [Function.comp_apply, Json.member?_of_mem h hm]
  cases m.2 <;> rfl

theorem frames_sequenceOf (count : Nat) (key : Text) (members : Json.Members) :
    (sequenceOf count key members).frames = framesOf count (membersAt "frames" (.object members)) := rfl

variable {members : Json.Members}

theorem readable_membersAt (h : (Json.object members).Readable) (key : Text) :
    (Json.object (membersAt key (.object members))).Readable := by
  rw [membersAt]
  split
  · next inner hinner => exact h.of_member? hinner
  · exact .object (by simp) (by simp) (by simp)

theorem sequenceRead_sequenceOf (count : Nat) (key : Text) (h : (Json.object members).Readable) :
    SequenceRead count (key, members) (sequenceOf count key members) := by
  refine ⟨inKeyOrder (membersAt "frames" (.object members)),
    inKeyOrder_perm (readable_membersAt h "frames").nodup_keys, ?_⟩
  rw [frames_sequenceOf, framesOf_eq_map, List.forall₂_map_right_iff, List.forall₂_same]
  exact fun entry _ => frameRead_frameOf count entry.1 entry.2

theorem frames_sequenceOf_eq_nil_iff (count : Nat) (key : Text) (h : (Json.object members).Readable) :
    (sequenceOf count key members).frames = [] ↔ objects (membersAt "frames" (.object members)) = [] := by
  have hperm := inKeyOrder_perm (readable_membersAt h "frames").nodup_keys
  rw [frames_sequenceOf, framesOf_eq_map, List.map_eq_nil_iff]
  exact ⟨fun hnil => (hnil ▸ hperm).nil_eq.symm, fun hnil => (hnil ▸ hperm).eq_nil⟩

/-! ### All entries -/

theorem sequencesOf_eq_map (count : Nat) (file : File) :
    sequencesOf count (tree file) =
      (sequenceEntries file).map fun entry => sequenceOf count entry.1 entry.2 := by
  rw [sequenceEntries, membersAt_content, membersAt, sequencesOf]
  cases Json.member? sequencesKey (tree file) with
  | none => rfl
  | some node =>
    cases node with
    | object nodes =>
      dsimp only
      rw [objects, List.map_filterMap]
      refine List.filterMap_congr fun m _ => ?_
      obtain ⟨key, node⟩ := m
      cases node <;> rfl
    | _ => rfl

theorem readable_of_mem_sequenceEntries {file : File} {entry : Text × Json.Members}
    (h : entry ∈ sequenceEntries file) : (Json.object entry.2).Readable := by
  rw [sequenceEntries, membersAt_content, objects] at h
  have hreadable := readable_membersAt (readable_tree file) sequencesKey
  obtain ⟨m, hm, hentry⟩ := List.mem_filterMap.1 h
  split at hentry
  · next inner hinner =>
    cases hentry
    exact hinner ▸ hreadable.of_mem hm
  · cases hentry

theorem forall₂_sequencesOf (count : Nat) (file : File) :
    List.Forall₂ (SequenceRead count) (sequenceEntries file) (sequencesOf count (tree file)) := by
  rw [sequencesOf_eq_map, List.forall₂_map_right_iff, List.forall₂_same]
  exact fun entry hentry =>
    sequenceRead_sequenceOf count entry.1 (readable_of_mem_sequenceEntries hentry)

theorem all_isEmpty_iff (count : Nat) (file : File) :
    (sequencesOf count (tree file)).all (·.frames.isEmpty) = true ↔ ¬ HasFrame file := by
  rw [sequencesOf_eq_map, List.all_map, List.all_eq_true, HasFrame]
  simp only [not_exists, not_and, ne_eq, not_not]
  refine forall₂_congr fun entry hentry => ?_
  rw [Function.comp_apply, List.isEmpty_iff]
  exact frames_sequenceOf_eq_nil_iff count entry.1 (readable_of_mem_sequenceEntries hentry)

/-- Without a frame it makes no difference how many targets are asked for. -/
theorem sequenceRead_of_no_frame {file : File} (h : ¬ HasFrame file) (count : Nat) :
    List.Forall₂ (SequenceRead count) (sequenceEntries file) (sequencesOf 0 (tree file)) := by
  rw [sequencesOf_eq_map, List.forall₂_map_right_iff, List.forall₂_same]
  intro entry hentry
  have hreadable := readable_of_mem_sequenceEntries hentry
  have hnone : objects (membersAt "frames" (.object entry.2)) = [] := by
    by_contra hne
    exact h ⟨entry, hentry, hne⟩
  refine ⟨[], by rw [hnone], ?_⟩
  rw [(frames_sequenceOf_eq_nil_iff 0 entry.1 hreadable).2 hnone]
  exact .nil

/-- Reading gives a sequence for each object among the entries of the sequences, in their order, and in it a
frame of words for each object among the entries of its frames, whatever is in the file. It faults only
if there is a frame and no room for its targets. -/
theorem read_content [Memory] (file : File) (count : Int) :
    (count < Memory.items ∨ ¬ HasFrame file →
      ∃ sequences, read count file = .ok sequences ∧
        List.Forall₂ (SequenceRead count.toNat) (sequenceEntries file) sequences) ∧
    (Memory.items ≤ count → HasFrame file →
      read count file = .error (if Json.wordBound ≤ count then .hugeCount else .noRoom)) := by
  have hfault (hlarge : Memory.items ≤ count) := targetCount_of_no_room hlarge
  refine ⟨fun h => ?_, fun hlarge hframe => ?_⟩
  · by_cases hroom : count < Memory.items
    · refine ⟨sequencesOf count.toNat (tree file), ?_, forall₂_sequencesOf count.toNat file⟩
      rw [read, targetCount_of_room hroom]
      rfl
    · have hnone := h.resolve_left hroom
      refine ⟨sequencesOf 0 (tree file), ?_, sequenceRead_of_no_frame hnone count.toNat⟩
      rw [read, hfault (Int.not_lt.1 hroom), sequencesWith]
      exact if_pos ((all_isEmpty_iff 0 file).2 hnone)
  · rw [read, hfault hlarge, sequencesWith]
    exact if_neg fun hall => (all_isEmpty_iff 0 file).1 hall hframe

/-- Of four entries under the key of the sequences, three are objects. The keys of two are lone halves. -/
theorem read_content_mixed : ∃ sequences,
    @read Memory.least (-1) ⟨"root", "store", "sequences.json", .octets (Utf8.encode ("\x7b\"sequences\": " ++
      "\x7b\"b\": \x7b\"frames\": \x7b\"1\": \x7b\"duration\": -1\x7d, \"x\": []\x7d\x7d, " ++
      "\"\": null, \"\\ud800\": \x7b\x7d, \"\\udbff\": \x7b\x7d\x7d\x7d"))⟩ = .ok sequences ∧
    sequences.length = 3 := by
  refine Exists.imp (fun sequences h => ⟨h.1, ?_⟩) ((@read_content Memory.least _ (-1)).1 (.inl (by decide)))
  rw [← h.2.length_eq]
  decide +kernel

/-- A frame cannot be read with more targets than a list can have, even if the file has none for it. -/
theorem read_huge_count :
    letI := Memory.least
    read 9223372036854775808 ⟨"root", "store", "sequences.json", .octets (Utf8.encode
      "\x7b\"sequences\": \x7b\"0\": \x7b\"frames\": \x7b\"0\": \x7b\x7d\x7d\x7d\x7d\x7d")⟩ =
      .error .hugeCount := by
  let _ := Memory.least
  have hfault : Frame.targetCount 9223372036854775808 = .error .hugeCount :=
    targetCount_of_no_room Memory.items_le
  rw [read, hfault, sequencesWith]
  exact if_neg (by decide +kernel)

end Store

end ServoScript
