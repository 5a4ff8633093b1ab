import Mathlib.Data.List.Nodup
import ServoScript.Proofs.DocumentFile
import ServoScript.Proofs.KeyOrder
import ServoScript.Proofs.Store
import ServoScript.Proofs.Words

/-!
# Saved sequences are read back

Sequences that are saved and then read are the same, in the same order, with as many targets for each
frame as are asked for: the first ones, and zeros for those that are missing. Nothing that the file held
before can change this. In a name, the two halves of a character come back as that character.
-/

namespace ServoScript

namespace Json

theorem member?_of_mem {members : Members} (h : (members.map Prod.fst).Nodup) {m : Text × Json}
    (hm : m ∈ members) : member? m.1 members = some m.2 := by
  induction members with
  | nil => exact absurd hm (by simp)
  | cons m' rest ih =>
    rw [List.map_cons, List.nodup_cons] at h
    rw [member?, List.lookup_cons]
    rcases List.mem_cons.1 hm with rfl | hrest
    · simp
    · have hne : m.1 ≠ m'.1 := fun heq => h.1 (heq ▸ List.mem_map_of_mem hrest)
      rw [beq_eq_false_iff_ne.2 hne]
      exact ih h.2 hrest

theorem member?_put (key : Text) (value : Json) (members : Members) :
    member? key (put key value members) = some value := by
  induction members with
  | nil => simp [put, member?]
  | cons m rest ih =>
    rw [put]
    split
    · next heq => simp [member?, heq]
    · next hne =>
      rw [member?, List.lookup_cons, beq_eq_false_iff_ne.2 (Ne.symm hne)]
      exact ih

theorem member?_put_of_ne {key other : Text} (h : other ≠ key) (value : Json) (members : Members) :
    member? other (put key value members) = member? other members := by
  induction members with
  | nil => simp [put, member?, List.lookup_cons, beq_eq_false_iff_ne.2 h]
  | cons m rest ih =>
    rw [put]
    split
    · next heq =>
      rw [member?, member?, List.lookup_cons, List.lookup_cons, heq, beq_eq_false_iff_ne.2 h]
    · rw [member?, member?] at ih
      rw [member?, member?, List.lookup_cons, List.lookup_cons, ih]

/-! ### Documents with the same text -/

/-- Documents that are written alike. -/
def WrittenAlike (style : Style) (v w : Json) : Prop :=
  ∀ depth, write style depth v = write style depth w

theorem writtenAlike_text (style : Style) (t : Text) : WrittenAlike style (.text t.joinHalves) (.text t) := by
  intro depth
  rw [write, write, writtenText, writtenText, flatMap_writtenChar_joinHalves]

theorem writtenAlike_object {style : Style} {members members' : Members}
    (h : List.Forall₂ (fun m m' => m.1 = m'.1 ∧ WrittenAlike style m.2 m'.2) members members') :
    WrittenAlike style (.object members) (.object members') := by
  intro depth
  rw [write, write, writeMembers_eq_map, writeMembers_eq_map,
    map_eq_of_forall₂ h fun m m' hm => by rw [writtenMember, writtenMember, hm.1, hm.2]]

theorem writtenAlike_put {style : Style} {v w : Json} (h : WrittenAlike style v w) (key : Text)
    (members : Members) : WrittenAlike style (.object (put key v members)) (.object (put key w members)) := by
  refine writtenAlike_object ?_
  induction members with
  | nil => exact .cons ⟨rfl, h⟩ .nil
  | cons m rest ih =>
    have hsame (rest : Members) : List.Forall₂ (fun m m' => m.1 = m'.1 ∧ WrittenAlike style m.2 m'.2)
        rest rest := List.forall₂_same.mpr fun _ _ => ⟨rfl, fun _ => rfl⟩
    rw [put, put]
    split
    · exact .cons ⟨rfl, h⟩ (hsame rest)
    · exact .cons ⟨rfl, fun _ => rfl⟩ ih

end Json

def Frame.joinHalves (f : Frame) : Frame :=
  ⟨f.name.joinHalves, f.duration, f.targets⟩

def Sequence.joinHalves (s : Sequence) : Sequence :=
  ⟨s.name.joinHalves, s.frames.map Frame.joinHalves⟩

/-- No name has the halves of a character apart. -/
structure Sequence.IsJoined (s : Sequence) : Prop where
  name : s.name.IsJoined
  frames : ∀ f ∈ s.frames, f.name.IsJoined

theorem Sequence.isJoined_joinHalves (s : Sequence) : s.joinHalves.IsJoined where
  name := Text.isJoined_joinHalves s.name
  frames := by
    intro f hf
    obtain ⟨g, _, rfl⟩ := List.mem_map.mp hf
    exact Text.isJoined_joinHalves g.name

theorem Sequence.joinHalves_eq_self {s : Sequence} (h : s.IsJoined) : s.joinHalves = s := by
  have hframes : s.frames.map Frame.joinHalves = s.frames := by
    refine map_eq_self fun f hf => ?_
    rw [Frame.joinHalves, Text.joinHalves_eq_self (h.frames f hf)]
  rw [joinHalves, hframes, Text.joinHalves_eq_self h.name]

theorem Sequence.forall_frames_joinHalves {p : Frame → Prop} {sequences : List Sequence}
    (hp : ∀ f : Frame, p f → p f.joinHalves) (h : ∀ s ∈ sequences, ∀ f ∈ s.frames, p f) :
    ∀ s ∈ sequences.map joinHalves, ∀ f ∈ s.frames, p f := by
  intro s hs f hf
  obtain ⟨s', hs', rfl⟩ := List.mem_map.mp hs
  obtain ⟨f', hf', rfl⟩ := List.mem_map.mp hf
  exact hp f' (h s' hs' f' hf')

/-- The frame with exactly `count` targets: its first ones, and zeros for those that it lacks. -/
def Frame.resized (count : Nat) (f : Frame) : Frame :=
  ⟨f.name, f.duration, f.targets.take count ++ List.replicate (count - f.targets.length) 0⟩

def Sequence.resized (count : Nat) (s : Sequence) : Sequence :=
  ⟨s.name, s.frames.map (Frame.resized count)⟩

theorem Frame.words_numerals {gap : Text} (hne : gap ≠ []) (h : ∀ c ∈ gap, Text.isBlank c = true)
    (targets : List Int) :
    Text.words (List.intercalate gap (targets.map Text.ofInt)) = targets.map Text.ofInt := by
  apply Text.words_intercalate hne h
  intro w hw
  obtain ⟨n, _, rfl⟩ := List.mem_map.mp hw
  exact ⟨Text.ofInt_ne_nil n, (Script.isToken_ofInt n).not_blank⟩

theorem Frame.targetsOfText_of_words {targets : List Int}
    (h : ∀ target ∈ targets, 0 ≤ target ∧ target ≤ 65535) {t : Text}
    (ht : Text.words t = targets.map Text.ofInt) (count : Nat) :
    targetsOfText count t = targets.take count ++ List.replicate (count - targets.length) 0 := by
  have hvalues : ((targets.map Text.ofInt).take count).map (fun word => (Word.parseD word 0 : Int)) =
      targets.take count := by
    rw [← List.map_take]
    exact Word.map_parseD_ofInt fun target ht => h target (List.mem_of_mem_take ht)
  have hmissing : count - (targets.take count).length = count - targets.length := by
    rw [List.length_take]
    omega
  rw [targetsOfText, ht]
  simp only [hvalues, hmissing]

theorem Frame.targetsOfText_targetsText {targets : List Int}
    (h : ∀ target ∈ targets, 0 ≤ target ∧ target ≤ 65535) (count : Nat) :
    targetsOfText count (targetsText targets) =
      targets.take count ++ List.replicate (count - targets.length) 0 :=
  targetsOfText_of_words h (words_numerals (by decide) (by decide) targets) count

namespace Store

open ServoScript.Frame (targetCount_of_no_room)

/-! ### Nodes -/

def numberedMembers (width : Nat) (nodes : List Json) : Json.Members :=
  nodes.zipIdx.map fun (node, index) => (Text.padded width index, node)

theorem numbered_eq_object (width : Nat) (nodes : List Json) :
    numbered width nodes = .object (numberedMembers width nodes) :=
  rfl

theorem keys_numberedMembers (width : Nat) (nodes : List Json) :
    (numberedMembers width nodes).map Prod.fst =
      (List.range nodes.length).map (Text.padded width) := by
  rw [List.range_eq_range', ← List.zipIdx_map_snd, numberedMembers, List.map_map, List.map_map]
  rfl

theorem nodup_keys_numberedMembers (width : Nat) (nodes : List Json) :
    ((numberedMembers width nodes).map Prod.fst).Nodup := by
  rw [keys_numberedMembers]
  exact List.Nodup.map (Text.padded_injective width) List.nodup_range

theorem mem_of_mem_numberedMembers {width : Nat} {nodes : List Json} {m : Text × Json}
    (h : m ∈ numberedMembers width nodes) : m.2 ∈ nodes := by
  obtain ⟨entry, hentry, rfl⟩ := List.mem_map.1 h
  exact List.fst_mem_of_mem_zipIdx hentry

theorem isJoined_padded (width n : Nat) : (Text.padded width n).IsJoined :=
  (Text.noHalf_of_forall (Json.isDigits_padded width n).digits Text.isDigit_half).isJoined

theorem isJoined_numberedMembers {width : Nat} {nodes : List Json} {m : Text × Json}
    (h : m ∈ numberedMembers width nodes) : m.1.IsJoined := by
  obtain ⟨entry, _, rfl⟩ := List.mem_map.1 h
  exact isJoined_padded width entry.2

theorem readable_numbered (width : Nat) {nodes : List Json} (h : ∀ node ∈ nodes, node.Readable) :
    (numbered width nodes).Readable :=
  .object (nodup_keys_numberedMembers width nodes) (fun _ => isJoined_numberedMembers)
    fun _ hm => h _ (mem_of_mem_numberedMembers hm)

theorem numberedMembers_map {α : Type} (width : Nat) (node : α → Json) (l : List α) :
    numberedMembers width (l.map node) =
      l.zipIdx.map fun entry => (Text.padded width entry.2, node entry.1) := by
  rw [numberedMembers, List.zipIdx_map, List.map_map]
  rfl

/-- Numbered values that are written alike one by one. -/
theorem writtenAlike_numbered {α : Type} {style : Json.Style} {node node' : α → Json}
    (h : ∀ a, Json.WrittenAlike style (node a) (node' a)) (width : Nat) (l : List α) :
    Json.WrittenAlike style (numbered width (l.map node)) (numbered width (l.map node')) := by
  rw [numbered_eq_object, numbered_eq_object, numberedMembers_map, numberedMembers_map]
  refine Json.writtenAlike_object ?_
  rw [List.forall₂_map_left_iff, List.forall₂_map_right_iff, List.forall₂_same]
  exact fun entry _ => ⟨rfl, h entry.1⟩

/-- Picking from numbered values, if something is picked from every one. -/
theorem filterMap_numberedMembers {α β : Type} {width : Nat} {node : α → Json} {l : List α}
    {pick : Text × Json → Option β} {value : α → β}
    (h : ∀ a ∈ l, ∀ key, (key, node a) ∈ numberedMembers width (l.map node) →
      pick (key, node a) = some (value a)) :
    (numberedMembers width (l.map node)).filterMap pick = l.map value := by
  have hvalues : l.map value = l.zipIdx.map fun (a, _) => value a := by
    conv_lhs => rw [← List.zipIdx_map_fst 0 l, List.map_map]
    rfl
  rw [numberedMembers_map] at h ⊢
  rw [List.filterMap_map, hvalues, List.filterMap_eq_map_iff_forall_eq_some]
  intro entry hentry
  exact h entry.1 (List.fst_mem_of_mem_zipIdx hentry) _ (List.mem_map_of_mem hentry)

theorem frameOf_frameNode {f : Frame} (h : f.InRange) (count : Nat) (key : Text) :
    frameOf count key [("name", .text f.name), ("duration", .int f.duration),
      ("targets", .text (Frame.targetsText f.targets))] = f.resized count := by
  have hduration : f.duration % 65536 = f.duration :=
    Int.emod_eq_of_lt h.duration.1 (by have := h.duration.2; omega)
  change Frame.mk f.name (f.duration % 65536)
    (Frame.targetsOfText count (Frame.targetsText f.targets)) = _
  rw [hduration, Frame.targetsOfText_targetsText h.targets, Frame.resized]

def nodeOfFrame (f : Frame) : Json :=
  frameNode (.text f.name) f.duration f.targets

theorem framesOf_numberedMembers {frames : List Frame} (h : ∀ f ∈ frames, f.InRange) (count : Nat) :
    framesOf count (numberedMembers 4 (frames.map nodeOfFrame)) =
      frames.map (Frame.resized count) := by
  -- Sorting leaves the keys alone, and each of them finds the node that it was made for.
  rw [framesOf, keys_numberedMembers, sortKeys_padded, ← keys_numberedMembers, List.filterMap_map]
  refine filterMap_numberedMembers fun f hf key hmem => ?_
  have hmember := Json.member?_of_mem (nodup_keys_numberedMembers 4 _) hmem
  simp only [Function.comp_apply, hmember, nodeOfFrame, frameNode]
  rw [frameOf_frameNode (h f hf)]

theorem sequencesOf_numbered {sequences : List Sequence} {members : Json.Members}
    (hm : Json.member? sequencesKey members = some (numbered 2 (sequences.map nodeOf)))
    (h : ∀ s ∈ sequences, ∀ f ∈ s.frames, f.InRange) (count : Nat) :
    sequencesOf count members = sequences.map (Sequence.resized count) := by
  rw [sequencesOf, hm, numbered_eq_object]
  refine filterMap_numberedMembers fun s hs key _ => ?_
  change some (Sequence.mk s.name (framesOf count (numberedMembers 4 (s.frames.map nodeOfFrame)))) =
    some (s.resized count)
  rw [framesOf_numberedMembers (h s hs), Sequence.resized]

/-! ### The file -/

theorem isJoined_targetsText (targets : List Int) : (Frame.targetsText targets).IsJoined := by
  refine (Text.noHalf_of_forall (fun c hc => ?_) Json.isPlain_half).isJoined
  rcases Text.mem_intercalate_text hc with hgap | ⟨part, hpart, hc⟩
  · rw [List.mem_singleton.1 hgap]
    rfl
  · obtain ⟨n, _, rfl⟩ := List.mem_map.1 hpart
    exact Json.isPlain_ofInt hc

theorem readable_nodeOfFrame {f : Frame} (h : f.Writable) (hname : f.name.IsJoined) :
    (nodeOfFrame f).Readable := by
  refine .object (by simp) ?_ ?_
  all_goals simp only [List.forall_mem_cons, List.not_mem_nil, false_implies, implies_true, and_true]
  · decide
  exact ⟨.text hname, .int h.duration, .text (isJoined_targetsText f.targets)⟩

theorem readable_nodeOf {s : Sequence} (h : ∀ f ∈ s.frames, f.Writable) (hnames : s.IsJoined) :
    (nodeOf s).Readable := by
  have hframes : (numbered 4 (s.frames.map nodeOfFrame)).Readable := by
    refine readable_numbered 4 fun node hnode => ?_
    obtain ⟨f, hf, rfl⟩ := List.mem_map.1 hnode
    exact readable_nodeOfFrame (h f hf) (hnames.frames f hf)
  refine .object (by simp) ?_ ?_
  all_goals simp only [List.forall_mem_cons, List.not_mem_nil, false_implies, implies_true, and_true]
  · decide
  exact ⟨.text hnames.name, hframes⟩

theorem writtenAlike_nodeOfFrame (style : Json.Style) (f : Frame) :
    Json.WrittenAlike style (nodeOfFrame f.joinHalves) (nodeOfFrame f) :=
  Json.writtenAlike_object (.cons ⟨rfl, Json.writtenAlike_text style f.name⟩
    (.cons ⟨rfl, fun _ => rfl⟩ (.cons ⟨rfl, fun _ => rfl⟩ .nil)))

theorem writtenAlike_nodeOf (style : Json.Style) (s : Sequence) :
    Json.WrittenAlike style (nodeOf s.joinHalves) (nodeOf s) := by
  have hframes : Json.WrittenAlike style (numbered 4 (s.joinHalves.frames.map nodeOfFrame))
      (numbered 4 (s.frames.map nodeOfFrame)) := by
    rw [Sequence.joinHalves, List.map_map]
    exact writtenAlike_numbered (writtenAlike_nodeOfFrame style) 4 s.frames
  exact Json.writtenAlike_object
    (.cons ⟨rfl, Json.writtenAlike_text style s.name⟩ (.cons ⟨rfl, hframes⟩ .nil))

/-- Saving writes the same text for the joined names. -/
theorem spread_savedTree (sequences : List Sequence) (members : Json.Members) :
    (Json.object (savedTree (sequences.map Sequence.joinHalves) members)).spread =
      (Json.object (savedTree sequences members)).spread := by
  rw [savedTree, savedTree, List.map_map]
  exact Json.writtenAlike_put (writtenAlike_numbered (writtenAlike_nodeOf _) 2 sequences) _ _ 0

variable {sequences : List Sequence} {file after : File}

/-- The document after sequences are saved: as before, but for the new nodes. -/
theorem document_save (hs : save sequences file = .ok after) :
    after.document = .ok (.object (savedTree (sequences.map Sequence.joinHalves) (tree file))) := by
  have hwritable := writable_of_save hs
  have hjoined := Sequence.forall_frames_joinHalves (fun f hf => ⟨hf.duration, hf.targets⟩) hwritable
  have hnodes : ∀ node ∈ (sequences.map Sequence.joinHalves).map nodeOf, node.Readable := by
    intro node hnode
    obtain ⟨s, hmem, rfl⟩ := List.mem_map.1 hnode
    obtain ⟨s', _, hs'⟩ := List.mem_map.1 hmem
    exact readable_nodeOf (hjoined s hmem) (hs' ▸ Sequence.isJoined_joinHalves s')
  have hreadable := (readable_tree file).put (by decide : sequencesKey.IsJoined) (readable_numbered 2 hnodes)
  rw [save_eq_write hwritable, ← spread_savedTree] at hs
  exact File.document_write hreadable hs

theorem tree_save (hs : save sequences file = .ok after) :
    tree after = savedTree (sequences.map Sequence.joinHalves) (tree file) := by
  rw [tree, document_save hs]

theorem member?_save (hs : save sequences file = .ok after) :
    Json.member? sequencesKey (tree after) =
      some (numbered 2 ((sequences.map Sequence.joinHalves).map nodeOf)) := by
  rw [tree_save hs, savedTree, Json.member?_put]

/-! ### Reading what was saved -/

theorem resized_of_no_frames {s : Sequence} (h : s.frames = []) (count : Nat) :
    s.resized count = s := by
  rw [Sequence.resized, h, List.map_nil, ← h]

theorem resized_of_length {s : Sequence} {count : Nat}
    (h : ∀ f ∈ s.frames, f.targets.length = count) : s.resized count = s := by
  have hframes : s.frames.map (Frame.resized count) = s.frames := by
    refine map_eq_self fun f hf => ?_
    rw [Frame.resized, ← h f hf, List.take_length, Nat.sub_self, List.replicate_zero, List.append_nil]
  rw [Sequence.resized, hframes]

theorem inRange_joinHalves (h : ∀ s ∈ sequences, ∀ f ∈ s.frames, f.InRange) :
    ∀ s ∈ sequences.map Sequence.joinHalves, ∀ f ∈ s.frames, f.InRange :=
  Sequence.forall_frames_joinHalves (fun _ hf => ⟨hf.duration, hf.targets⟩) h

section

variable [Memory]

theorem read_save_of_room (h : ∀ s ∈ sequences, ∀ f ∈ s.frames, f.InRange)
    (hs : save sequences file = .ok after) {count : Nat} (hroom : (count : Int) < Memory.items) :
    read count after = .ok ((sequences.map Sequence.joinHalves).map (Sequence.resized count)) := by
  rw [read_eq_ok hroom, sequencesOf_numbered (member?_save hs) (inRange_joinHalves h)]

/-- Without room for the targets, only sequences without frames are read. -/
theorem read_save_of_fault (h : ∀ s ∈ sequences, ∀ f ∈ s.frames, f.InRange)
    (hs : save sequences file = .ok after) {count : Int} {fault : Fault}
    (hfault : Frame.targetCount count = .error fault) :
    read count after =
      if sequences.all (·.frames.isEmpty) then .ok (sequences.map Sequence.joinHalves)
      else .error fault := by
  have hempty : ((sequences.map Sequence.joinHalves).map (Sequence.resized 0)).all (·.frames.isEmpty) =
      sequences.all (·.frames.isEmpty) := by
    simp [Sequence.resized, Sequence.joinHalves, Function.comp_def]
  -- Which sequences have frames does not depend on the number of targets, so it is looked up with none.
  rw [read, hfault, sequencesWith, sequencesOf_numbered (member?_save hs) (inRange_joinHalves h)]
  simp only [hempty]
  split
  · next hall =>
    have hsame : (sequences.map Sequence.joinHalves).map (Sequence.resized 0) =
        sequences.map Sequence.joinHalves := by
      refine map_eq_self fun s hs => ?_
      obtain ⟨s', hs', rfl⟩ := List.mem_map.mp hs
      have hnone : s'.frames = [] := by simpa using List.all_eq_true.1 hall s' hs'
      exact resized_of_no_frames (by rw [Sequence.joinHalves, hnone, List.map_nil]) 0
    rw [hsame]
  · rfl

theorem read_save_of_no_frames (h : ∀ s ∈ sequences, s.frames = [])
    (hs : save sequences file = .ok after) (count : Nat) :
    read count after = .ok ((sequences.map Sequence.joinHalves).map (Sequence.resized count)) := by
  have hrange : ∀ s ∈ sequences, ∀ f ∈ s.frames, f.InRange := by
    intro s hmem f hf
    rw [h s hmem] at hf
    exact absurd hf (by simp)
  by_cases hroom : (count : Int) < Memory.items
  · exact read_save_of_room hrange hs hroom
  · have hall : sequences.all (·.frames.isEmpty) = true :=
      List.all_eq_true.2 fun s hmem => by simp [h s hmem]
    have hsame : (sequences.map Sequence.joinHalves).map (Sequence.resized count) =
        sequences.map Sequence.joinHalves := by
      refine map_eq_self fun s hmem => ?_
      obtain ⟨s', hs', rfl⟩ := List.mem_map.mp hmem
      exact resized_of_no_frames (by rw [Sequence.joinHalves, h s' hs', List.map_nil]) count
    rw [read_save_of_fault hrange hs (targetCount_of_no_room (Int.not_lt.1 hroom)), if_pos hall, hsame]

/-- Sequences that are saved are read back in their order, each frame with its name, its duration and
exactly as many targets as are asked for. So they are the same if every frame has this number of
targets. A name that has the halves of a character apart is read with that character. All this takes room
for the targets of a frame, if there is a frame at all; without room, reading faults. -/
theorem read_save_resized (h : ∀ s ∈ sequences, ∀ f ∈ s.frames, f.InRange)
    (hs : save sequences file = .ok after) (count : Nat) :
    ((count : Int) < Memory.items ∨ (∀ s ∈ sequences, s.frames = []) →
      read count after = .ok ((sequences.map Sequence.joinHalves).map (Sequence.resized count)) ∧
      ((∀ s ∈ sequences, s.IsJoined) →
        read count after = .ok (sequences.map (Sequence.resized count)) ∧
        ((∀ s ∈ sequences, ∀ f ∈ s.frames, f.targets.length = count) →
          read count after = .ok sequences))) ∧
    (Memory.items ≤ count → (∃ s ∈ sequences, s.frames ≠ []) →
      read count after = .error (if Json.wordBound ≤ (count : Int) then .hugeCount else .noRoom)) := by
  refine ⟨fun hroom => ?_, fun hlarge hframe => ?_⟩
  · have hread : read count after =
        .ok ((sequences.map Sequence.joinHalves).map (Sequence.resized count)) :=
      hroom.elim (read_save_of_room h hs) fun hnone => read_save_of_no_frames hnone hs count
    refine ⟨hread, fun hjoined => ?_⟩
    rw [map_eq_self fun s hmem => Sequence.joinHalves_eq_self (hjoined s hmem)] at hread
    refine ⟨hread, fun hlength => ?_⟩
    rw [hread]
    exact congrArg Except.ok (map_eq_self fun s hmem => resized_of_length (hlength s hmem))
  · obtain ⟨s, hmem, hne⟩ := hframe
    have hall : sequences.all (·.frames.isEmpty) = false :=
      List.all_eq_false.2 ⟨s, hmem, by simpa using hne⟩
    rw [read_save_of_fault h hs (targetCount_of_no_room hlarge), hall]
    rfl

end

/-- Two frames, one with more targets than are asked for and one with fewer, and a sequence without
frames, in place of what a document holds under the same key. -/
theorem read_save_resized_pair : ∃ after,
    save [⟨"A", [⟨"f", 65535, [7, 65535]⟩, ⟨"", 0, []⟩]⟩, ⟨"A", []⟩]
        ⟨"root", "store", "sequences.json", .octets (Utf8.encode "\x7b\"sequences\": [1.5]\x7d")⟩ =
      .ok after ∧
    @read Memory.least 1 after = .ok [⟨"A", [⟨"f", 65535, [7]⟩, ⟨"", 0, [0]⟩]⟩, ⟨"A", []⟩] := by
  have h : ∀ s ∈ ([⟨"A", [⟨"f", 65535, [7, 65535]⟩, ⟨"", 0, []⟩]⟩, ⟨"A", []⟩] : List Sequence),
      ∀ f ∈ s.frames, f.InRange := by
    intro s hs f hf
    simp only [List.mem_cons, List.not_mem_nil, or_false] at hs
    rcases hs with rfl | rfl
    · simp only [List.mem_cons, List.not_mem_nil, or_false] at hf
      rcases hf with rfl | rfl
      · exact ⟨by decide, by decide⟩
      · exact ⟨by decide, by decide⟩
    · exact absurd hf (by simp)
  refine Exists.imp (fun after hs => ⟨hs, ?_⟩)
    ⟨_, save_eq_write (fun s hs f hf => (h s hs f hf).writable) _⟩
  exact ((@read_save_resized _ _ _ Memory.least h hs 1).1 (.inl (by decide))).1

/-- A frame cannot be read with more targets than a list can have. -/
theorem read_save_huge_count :
    letI := Memory.least
    ∃ after,
      save [⟨"A", [⟨"f", 0, []⟩]⟩] ⟨"root", "store", "sequences.json", .missing⟩ = .ok after ∧
        read 9223372036854775808 after = .error .hugeCount := by
  let _ := Memory.least
  have h : ∀ s ∈ ([⟨"A", [⟨"f", 0, []⟩]⟩] : List Sequence), ∀ f ∈ s.frames, f.InRange := by
    intro s hs f hf
    rw [List.mem_singleton.1 hs] at hf
    rw [List.mem_singleton.1 hf]
    exact ⟨by decide, by decide⟩
  refine Exists.imp (fun after hs => ⟨hs, ?_⟩)
    ⟨_, save_eq_write (fun s hs f hf => (h s hs f hf).writable) _⟩
  exact read_save_of_fault h hs (targetCount_of_no_room Memory.items_le)

end Store

end ServoScript
