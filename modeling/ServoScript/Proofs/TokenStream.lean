import ServoScript.Proofs.Layout

/-!
# Names and rows do not show in the tokens

What a device reads of a script depends on the durations and the targets of the frames, on the enabled
channels and, in a program, on the names of the sequences. A name in a comment is never read, whatever
characters it has, and where a row of targets ends makes no difference.
-/

namespace ServoScript

/-- Frames that differ in their names at most. -/
structure Frame.SameMotion (f g : Frame) : Prop where
  duration : f.duration = g.duration
  targets : f.targets = g.targets

def Sequence.SameMotion (s s' : Sequence) : Prop :=
  List.Forall₂ Frame.SameMotion s.frames s'.frames

/-- Sequences that differ in the names of their frames at most. -/
structure Sequence.SameSubroutine (s s' : Sequence) : Prop where
  name : s.name = s'.name
  motion : s.SameMotion s'

namespace Script

variable (enabled : List Int) {s s' : Sequence} {sequences sequences' : List Sequence}

theorem ofFrames_motion (h : s.SameMotion s') :
    Update.ofFrames enabled s.frames = Update.ofFrames enabled s'.frames := by
  have htargets : s.frames.map Frame.targets = s'.frames.map Frame.targets :=
    map_eq_of_forall₂ h fun f g hfg => hfg.targets
  rw [Update.ofFrames, Update.ofFrames, htargets]

theorem sequenceTokens_motion (h : s.SameMotion s') :
    sequenceTokens enabled s.frames = sequenceTokens enabled s'.frames := by
  have hplay : ∀ f g u, Frame.SameMotion f g → playTokens f u = playTokens g u := by
    intro f g u hfg
    rw [playTokens, playTokens, hfg.duration]
  rw [sequenceTokens, sequenceTokens, ofFrames_motion enabled h, flatMap_zip_congr h hplay]

theorem printable_motion (h : s.SameMotion s') : s.Printable enabled ↔ s'.Printable enabled := by
  have hframe : ∀ f g, Frame.SameMotion f g → (f.Printable enabled ↔ g.Printable enabled) := by
    rintro ⟨name, duration, targets⟩ ⟨name', duration', targets'⟩ ⟨rfl, rfl⟩
    exact ⟨fun h => ⟨h.duration, h.channels, h.targets⟩, fun h => ⟨h.duration, h.channels, h.targets⟩⟩
  exact forall_mem_iff_of_forall₂ h hframe

theorem setterLists_motion (h : List.Forall₂ Sequence.SameMotion sequences sequences') :
    setterLists enabled sequences = setterLists enabled sequences' := by
  have hlists : sequences.map (fun s => neededLists enabled s.frames) =
      sequences'.map (fun s => neededLists enabled s.frames) :=
    map_eq_of_forall₂ h fun s s' hs => by rw [neededLists, neededLists, ofFrames_motion enabled hs]
  simp only [setterLists, List.flatMap_def, hlists]

theorem programBlocks_motion (h : List.Forall₂ Sequence.SameSubroutine sequences sequences') :
    programBlocks enabled sequences = programBlocks enabled sequences' := by
  have hblocks : sequences.map (fun s => (Identifier.ofName s.name, sequenceTokens enabled s.frames)) =
      sequences'.map fun s => (Identifier.ofName s.name, sequenceTokens enabled s.frames) :=
    map_eq_of_forall₂ h fun s s' hs => by rw [hs.name, sequenceTokens_motion enabled hs.motion]
  rw [programBlocks, programBlocks, hblocks, setterLists_motion enabled (h.imp fun _ _ hs => hs.motion)]

/-- Looped scripts of sequences with the same durations and targets have the same tokens, for any names and
widths, and if one of them cannot be written, neither can the other. The same holds of programs whose
sequences have the same names, for any names of frames. -/
theorem tokens_motion (width width' : LineWidth) :
    (∀ s s' : Sequence, s.SameMotion s' →
      (s.Printable enabled → ∃ script script', looped enabled width s = .ok script ∧
        looped enabled width' s' = .ok script' ∧ tokens script = tokens script') ∧
      (¬ s.Printable enabled → looped enabled width s = .error .tooLongToWrite ∧
        looped enabled width' s' = .error .tooLongToWrite)) ∧
    ∀ sequences sequences', List.Forall₂ Sequence.SameSubroutine sequences sequences' →
      ((∀ s ∈ sequences, s.Printable enabled) → ∃ script script',
        program enabled width sequences = .ok script ∧
        program enabled width' sequences' = .ok script' ∧ tokens script = tokens script') ∧
      ((¬ ∀ s ∈ sequences, s.Printable enabled) →
        program enabled width sequences = .error .tooLongToWrite ∧
        program enabled width' sequences' = .error .tooLongToWrite) := by
  refine ⟨fun s s' h => ?_, fun sequences sequences' h => ?_⟩
  · have hsame := printable_motion enabled h
    refine ⟨fun hprint => ?_, fun hlong => ?_⟩
    · refine ⟨_, _, looped_eq width hprint, looped_eq width' (hsame.mp hprint), ?_⟩
      rw [tokens_looped, tokens_looped, sequenceTokens_motion enabled h,
        setterLists_motion enabled (.cons h .nil)]
    · exact ⟨looped_eq_error width hlong, looped_eq_error width' (fun hprint => hlong (hsame.mpr hprint))⟩
  · have hsame : (∀ s ∈ sequences, s.Printable enabled) ↔ ∀ s ∈ sequences', s.Printable enabled :=
      forall_mem_iff_of_forall₂ h fun s s' hs => printable_motion enabled hs.motion
    refine ⟨fun hprint => ?_, fun hlong => ?_⟩
    · refine ⟨_, _, program_eq width hprint, program_eq width' (hsame.mp hprint), ?_⟩
      rw [tokens_program, tokens_program, programBlocks_motion enabled h]
    · exact ⟨program_eq_error width hlong, program_eq_error width' (fun hprint => hlong (hsame.mpr hprint))⟩

/-- Names with line feeds and instructions in them, and a row for each target. -/
theorem tokens_motion_injected : ∃ script script',
    looped [0, 1] (some 1) ⟨"repeat\rsub x", [⟨"a\n  9 0 servo #", 5, [7, 8]⟩]⟩ = .ok script ∧
      looped [0, 1] none ⟨[], [⟨[], 5, [7, 8]⟩]⟩ = .ok script' ∧ tokens script = tokens script' :=
  ((tokens_motion [0, 1] (some 1) none).1 ⟨"repeat\rsub x", [⟨"a\n  9 0 servo #", 5, [7, 8]⟩]⟩
    ⟨[], [⟨[], 5, [7, 8]⟩]⟩ (.cons ⟨rfl, rfl⟩ .nil)).1 (by decide +kernel)

end Script

end ServoScript
