import ServoScript.Proofs.Layout

/-!
# One registry for all sequences

A program gives every sequence a registry of its own and merges them. Handing one registry on from
each sequence to the next gives the same text: the lines of frames do not depend on what is
registered, and registering adds to the old lists the new ones, each at its first use.
-/

namespace ServoScript

theorem Update.along_take (enabled : List Int) (previous : Option (List Int)) (l : List (List Int))
    (k : Nat) : along enabled previous (l.take k) = (along enabled previous l).take k := by
  induction l generalizing previous k with
  | nil => simp [along]
  | cons targets l ih =>
    cases k with
    | zero => rfl
    | succ k => rw [List.take_succ_cons, along, along, List.take_succ_cons, ih]

theorem Update.ofFrames_take (enabled : List Int) (frames : List Frame) (k : Nat) :
    ofFrames enabled (frames.take k) = (ofFrames enabled frames).take k := by
  rw [ofFrames, ofFrames, List.map_take, along_take]

namespace Script

variable (enabled : List Int) (width : LineWidth)

/-- The subroutines of sequences as text, with one registry that is handed on from each to the
next. -/
def threadedSubroutines (r : Registry) : List Sequence → Except Fault (Text × Registry)
  | [] => .ok ([], r)
  | s :: rest => do
    let (lines, r) := sequenceSubroutine enabled width r s
    let lines ← lines
    let (more, r) ← threadedSubroutines r rest
    .ok (text lines ++ more, r)

/-- A program whose sequences share one registry. -/
def threadedProgram (sequences : List Sequence) : Except Fault Text := do
  let (script, r) ← threadedSubroutines enabled width .empty sequences
  let subroutines ← r.lists.mapM channelSubroutine
  .ok (script ++ subroutines.flatMap fun lines => CodePoint.char '\n' :: text lines)

theorem text_flatMap {α : Type} (l : List α) (f : α → List Text) :
    text (l.flatMap f) = l.flatMap fun a => text (f a) :=
  List.flatMap_assoc

section

variable {enabled} {sequences : List Sequence}

theorem threadedSubroutines_eq (h : ∀ s ∈ sequences, s.Printable enabled) (r : Registry) :
    threadedSubroutines enabled width r sequences =
      .ok (text (sequences.flatMap fun s =>
          subroutineLines s.name (sequenceLines enabled width s.frames)),
        r.addAll (sequences.flatMap fun s => neededLists enabled s.frames)) := by
  induction sequences generalizing r with
  | nil => rfl
  | cons s sequences ih =>
    obtain ⟨hfirst, hrest⟩ := List.forall_mem_cons.mp h
    rw [threadedSubroutines, sequenceSubroutine_eq width hfirst]
    simp only [bind, Except.bind, ih hrest, List.flatMap_cons, text_append, Registry.addAll_append]

theorem threadedSubroutines_eq_error (h : ¬ ∀ s ∈ sequences, s.Printable enabled) (r : Registry) :
    threadedSubroutines enabled width r sequences = .error .tooLongToWrite := by
  induction sequences generalizing r with
  | nil => exact absurd (by simp) h
  | cons s sequences ih =>
    rw [threadedSubroutines]
    by_cases hfirst : s.Printable enabled
    · have hrest : ¬ ∀ t ∈ sequences, t.Printable enabled :=
        fun hrest => h (List.forall_mem_cons.mpr ⟨hfirst, hrest⟩)
      rw [sequenceSubroutine_eq width hfirst]
      simp only [bind, Except.bind, ih hrest]
    · have hlines := sequenceSubroutine_eq_error width hfirst r
      simp only [hlines]
      rfl

theorem threadedProgram_eq (h : ∀ s ∈ sequences, s.Printable enabled) :
    threadedProgram enabled width sequences =
      .ok (text (assembledLines enabled width sequences)) := by
  rw [threadedProgram, threadedSubroutines_eq width h]
  change (setterLists enabled sequences).mapM channelSubroutine >>= _ = _
  rw [channelSubroutines_eq h, assembledLines, text_append, text_flatMap (setterLists _ _)]
  simp only [bind, Except.bind, List.flatMap_map, text_cons, List.nil_append]

theorem threadedProgram_eq_error (h : ¬ ∀ s ∈ sequences, s.Printable enabled) :
    threadedProgram enabled width sequences = .error .tooLongToWrite := by
  rw [threadedProgram, threadedSubroutines_eq_error width h]
  rfl

end

/-- The registry after frames were written, or some of them, is the old one followed by the new ones
of their channel lists. -/
theorem framesLines_snd (r : Registry) (frames : List Frame) :
    ∃ k, (framesLines enabled width r frames).2 =
      r.addAll (neededLists enabled (frames.take k)) := by
  obtain ⟨k, hk⟩ := writeFrames_snd (frameLines width) r (frames.zip (Update.ofFrames enabled frames))
  have hsnd : (frames.zip (Update.ofFrames enabled frames)).map Prod.snd =
      Update.ofFrames enabled frames :=
    List.map_snd_zip (Nat.le_of_eq (Update.length_ofFrames enabled frames))
  refine ⟨k, ?_⟩
  rw [framesLines, hk, List.map_take, hsnd, neededLists, Update.ofFrames_take]

/-- A program is what comes from one shared registry, and it is a text if all integers in it can be
written. Moreover the lines of frames are the same for every registry, and the registry afterwards is
the old one followed by the channel lists that the frames need and it does not have, each once and in
order of first use. Where an integer cannot be written, these are the lists of the frames that were
come to. -/
theorem program_eq_threaded (sequences : List Sequence) (frames : List Frame) :
    program enabled width sequences = threadedProgram enabled width sequences ∧
    ((∀ s ∈ sequences, s.Printable enabled) →
      ∃ script, program enabled width sequences = .ok script) ∧
    (∃ outcome, ∀ r : Registry, (framesLines enabled width r frames).1 = outcome) ∧
    ((∀ f ∈ frames, f.Printable enabled) →
      ∃ lines, ∀ r : Registry, framesLines enabled width r frames =
        (.ok lines, ⟨r.lists ++ ((neededLists enabled frames).removeAll r.lists).eraseDups⟩)) ∧
    ∀ r : Registry, ∃ k, (framesLines enabled width r frames).2 =
      ⟨r.lists ++ ((neededLists enabled (frames.take k)).removeAll r.lists).eraseDups⟩ := by
  refine ⟨?_, fun h => ⟨_, program_eq width h⟩, ?_, ?_, fun r => ?_⟩
  · by_cases h : ∀ s ∈ sequences, s.Printable enabled
    · rw [program_eq width h, threadedProgram_eq width h]
    · rw [program_eq_error width h, threadedProgram_eq_error width h]
  · by_cases h : ∀ f ∈ frames, f.Printable enabled
    · exact ⟨.ok (sequenceLines enabled width frames), fun r => by rw [framesLines_eq width h]⟩
    · exact ⟨_, fun r => framesLines_eq_error width h r⟩
  · intro h
    refine ⟨sequenceLines enabled width frames, fun r => ?_⟩
    rw [framesLines_eq width h, ← Registry.addAll_lists]
  · obtain ⟨k, hk⟩ := framesLines_snd enabled width r frames
    exact ⟨k, by rw [hk, ← Registry.addAll_lists]⟩

/-- Two sequences that need the same channel list, and frames for which one is registered already. -/
theorem program_eq_threaded_pair :
    (∃ script, program [0, 1] none [⟨"A", [⟨"a", 5, [1, 2]⟩]⟩, ⟨"B", [⟨"b", 6, [3, 4]⟩]⟩] = .ok script ∧
      threadedProgram [0, 1] none [⟨"A", [⟨"a", 5, [1, 2]⟩]⟩, ⟨"B", [⟨"b", 6, [3, 4]⟩]⟩] = .ok script) ∧
    ∃ lines, framesLines [0, 1] none ⟨[[1]]⟩ [⟨"a", 5, [1, 2]⟩, ⟨"b", 6, [1, 3]⟩] =
      (.ok lines, ⟨[[1], [0, 1]]⟩) := by
  obtain ⟨heq, hok, _, hframes, _⟩ := program_eq_threaded [0, 1] none
    [⟨"A", [⟨"a", 5, [1, 2]⟩]⟩, ⟨"B", [⟨"b", 6, [3, 4]⟩]⟩] [⟨"a", 5, [1, 2]⟩, ⟨"b", 6, [1, 3]⟩]
  obtain ⟨script, hscript⟩ := hok (by decide +kernel)
  obtain ⟨lines, hlines⟩ := hframes (by decide +kernel)
  exact ⟨⟨script, hscript, heq ▸ hscript⟩, lines, hlines ⟨[[1]]⟩⟩

end Script

end ServoScript
