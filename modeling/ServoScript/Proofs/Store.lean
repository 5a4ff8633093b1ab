import ServoScript.Proofs.DocumentFile
import ServoScript.Proofs.Payload
import ServoScript.Store

/-!
# What a store is read as, and what it can take

Whatever a file holds, the frames that are read from it are of words, since durations are cut to
their low 16 bits and words of targets that make no sense are zero, and they have as many targets as
the device has channels. Frames of words can be saved; in general their numbers must not be too long.
-/

namespace ServoScript

/-- All numbers of a frame can be written. -/
structure Frame.Writable (f : Frame) : Prop where
  duration : Numeral.isShort f.duration = true
  targets : ∀ target ∈ f.targets, Numeral.isShort target = true

theorem Frame.InRange.writable {f : Frame} (h : f.InRange) : f.Writable where
  duration := Numeral.isShort_word h.duration
  targets target ht := Numeral.isShort_word (h.targets target ht)

namespace Store

theorem durationOf_range (members : Json.Members) :
    0 ≤ durationOf members ∧ durationOf members ≤ 65535 := by
  unfold durationOf
  split
  · next n _ => omega
  · decide

theorem frameOf_fits (count : Nat) (key : Text) (members : Json.Members) :
    (frameOf count key members).Fits count where
  duration := durationOf_range members
  targets _ hv := Frame.mem_targetsOfText hv
  length_le := Nat.le_of_eq (Frame.length_targetsOfText _ _)

theorem framesOf_fits {count : Nat} {nodes : Json.Members} {f : Frame} (h : f ∈ framesOf count nodes) :
    f.Fits count := by
  obtain ⟨key, _, hf⟩ := List.mem_filterMap.mp h
  split at hf
  · cases hf
    exact frameOf_fits count key _
  · cases hf

theorem sequencesOf_fits {count : Nat} {members : Json.Members} {s : Sequence}
    (h : s ∈ sequencesOf count members) : ∀ f ∈ s.frames, f.Fits count := by
  unfold sequencesOf at h
  split at h
  · obtain ⟨⟨key, node⟩, _, hs⟩ := List.mem_filterMap.mp h
    cases node with
    | object inner =>
      cases hs
      exact fun f hf => framesOf_fits hf
    | _ => cases hs
  · cases h

theorem read_eq_ok [Memory] {count : Nat} (h : (count : Int) < Memory.items) (file : File) :
    read count file = .ok (sequencesOf count (tree file)) := by
  rw [read, Frame.targetCount_ofNat h]
  rfl

/-! ### Saving -/

theorem readable_tree (file : File) : (Json.object (tree file)).Readable := by
  rw [tree]
  split
  · next members hdocument => exact File.readable_document hdocument
  · exact .object (by simp) (by simp) (by simp)

theorem isWritable_numbered (width : Nat) (nodes : List Json) :
    (numbered width nodes).isWritable = nodes.all Json.isWritable := by
  rw [numbered, Json.isWritable_object, List.all_map]
  conv_rhs => rw [← List.zipIdx_map_fst 0 nodes, List.all_map]
  rfl

theorem isWritable_nodeOf (s : Sequence) :
    (nodeOf s).isWritable = s.frames.all fun f => Numeral.isShort f.duration := by
  have hframe (f : Frame) :
      (frameNode (.text f.name) f.duration f.targets).isWritable = Numeral.isShort f.duration := by
    rw [frameNode, Json.isWritable_object]
    simp only [List.all_cons, List.all_nil, Json.isWritable, Bool.true_and, Bool.and_true]
  rw [nodeOf, sequenceNode, Json.isWritable_object, List.all_cons, List.all_cons, List.all_nil,
    isWritable_numbered, List.all_map]
  simp only [Json.isWritable, Bool.true_and, Bool.and_true, Function.comp_def, hframe]

/-- The members of a document after sequences are saved. -/
def savedTree (sequences : List Sequence) (members : Json.Members) : Json.Members :=
  Json.put sequencesKey (numbered 2 (sequences.map nodeOf)) members

theorem isWritable_savedTree (sequences : List Sequence) (file : File) :
    (Json.object (savedTree sequences (tree file))).isWritable =
      sequences.all fun s => s.frames.all fun f => Numeral.isShort f.duration := by
  rw [savedTree, Json.isWritable_put _ _ (readable_tree file).isWritable, isWritable_numbered, List.all_map]
  simp only [Function.comp_def, isWritable_nodeOf]

variable {sequences : List Sequence} {file after : File}

theorem save_eq_write (h : ∀ s ∈ sequences, ∀ f ∈ s.frames, f.Writable) (file : File) :
    save sequences file = file.write (Json.object (savedTree sequences (tree file))).spread := by
  have htargets : ∀ target ∈ sequences.flatMap fun s => s.frames.flatMap (·.targets),
      Numeral.isShort target = true := by
    intro target ht
    obtain ⟨s, hs, ht⟩ := List.mem_flatMap.1 ht
    obtain ⟨f, hf, ht⟩ := List.mem_flatMap.1 ht
    exact (h s hs f hf).targets target ht
  have hdurations : (Json.object (savedTree sequences (tree file))).isWritable = true := by
    rw [isWritable_savedTree]
    exact List.all_eq_true.2 fun s hs => List.all_eq_true.2 fun f hf => (h s hs f hf).duration
  rw [save, Numeral.checkShort_eq_ok htargets]
  change file.writeDocument (.object (savedTree sequences (tree file))) = _
  rw [File.writeDocument, if_pos hdurations]
  split
  · next hstate => rw [File.write, hstate]
  · rfl

/-- What can be written is refused only by the system. -/
theorem isSystem_of_save (h : ∀ s ∈ sequences, ∀ f ∈ s.frames, f.Writable) {fault : Fault}
    (hs : save sequences file = .error fault) : fault.isSystem = true := by
  rw [save_eq_write h, File.write] at hs
  split at hs
  · cases hs
    rfl
  · cases hs
    rfl
  · cases hs

theorem writable_of_save (h : save sequences file = .ok after) :
    ∀ s ∈ sequences, ∀ f ∈ s.frames, f.Writable := by
  obtain ⟨_, hchecked, hsaved⟩ := bind_eq_ok h
  change file.writeDocument (.object (savedTree sequences (tree file))) = .ok after at hsaved
  rw [Numeral.checkShort] at hchecked
  rw [File.writeDocument, isWritable_savedTree] at hsaved
  split_ifs at hchecked with htargets
  split at hsaved
  · cases hsaved
  · split_ifs at hsaved with hdurations
    intro s hs f hf
    refine ⟨?_, fun target ht => ?_⟩
    · exact List.all_eq_true.1 (List.all_eq_true.1 hdurations s hs) f hf
    · exact List.all_eq_true.1 htargets target
        (List.mem_flatMap.2 ⟨s, hs, List.mem_flatMap.2 ⟨f, hf, ht⟩⟩)

end Store

end ServoScript
