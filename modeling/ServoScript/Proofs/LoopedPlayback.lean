import ServoScript.Proofs.Playback

/-!
# Looped scripts play their sequence

The script of a sequence, read as a device reads it and run from any state, plays the frames of the
sequence once in each pass of its loop.
-/

namespace ServoScript.Machine

open Script

/-- The subroutine of a needed channel list is found in the code of the looped script. -/
theorem subroutine?_looped {enabled : List Int} {width : LineWidth} {s : Sequence}
    {channels : List Int} (h : channels ∈ neededLists enabled s.frames) :
    (Code.ofScript (text (loopLines enabled width s))).subroutine? (setterName channels) =
      some (setterCode channels) := by
  have hmem : channels ∈ setterLists enabled [s] :=
    (mem_setterLists enabled).mpr ⟨s, List.mem_singleton_self s, h⟩
  rw [Code.ofScript_looped]
  apply Code.subroutine?_of_mem
  · simpa [setterSubroutines, Function.comp_def] using nodup_setterNames enabled [s]
  · exact List.mem_map_of_mem hmem

/-- Passes through a loop that plays frames play them as often. -/
theorem runLoop_plays {code : Code} {depth : Nat} {body : List Instruction} {enabled : List Int}
    {frames : List Frame} (hloop : code.loop = some body)
    (hbody : ∀ m, ∃ m', exec code depth body m = .ok m' ∧ Plays enabled frames m m')
    (passes : Nat) (m : Machine) :
    ∃ m', runLoop code depth passes m = .ok m' ∧
      Plays enabled (List.replicate passes frames).flatten m m' := by
  induction passes generalizing m with
  | zero => exact ⟨m, rfl, Plays.refl enabled m⟩
  | succ passes ih =>
    obtain ⟨m₁, hrun, hplays⟩ := hbody m
    obtain ⟨m', hrest, hplays'⟩ := ih m₁
    refine ⟨m', ?_, hplays.trans hplays'⟩
    simp only [runLoop, hloop, hrun]
    exact hrest

/-- The script of a sequence is written unless an integer in it has too many digits. Run from any state,
for any number of passes and with calls of any depth allowed, it never stops early; the stack is as it
was, every pass waits once for each frame, in order, for its duration and with its targets on all
enabled channels, and no other channel is ever written. -/
theorem looped_plays (enabled : List Int) (width : LineWidth) (s : Sequence) :
    (s.Printable enabled → ∃ script, looped enabled width s = .ok script ∧
      ∀ (depth passes : Nat) (m : Machine), ∃ m',
        run (Code.ofScript script) (depth + 1) passes m = .ok m' ∧
          Plays enabled (List.replicate passes s.frames).flatten m m') ∧
    (¬ s.Printable enabled → looped enabled width s = .error .tooLongToWrite) := by
  refine ⟨fun h => ⟨_, looped_eq width h, ?_⟩, looped_eq_error width⟩
  intro depth passes m
  have hcode := Code.ofScript_looped enabled width s
  have hpass : ∀ m, ∃ m', exec (Code.ofScript (text (loopLines enabled width s))) (depth + 1)
      (sequenceCode enabled s.frames) m = .ok m' ∧ Plays enabled s.frames m m' :=
    exec_sequenceCode (fun _ h => subroutine?_looped h)
  obtain ⟨m', hrun, hplays⟩ := runLoop_plays (by rw [hcode]) hpass passes m
  refine ⟨m', ?_, hplays⟩
  have hentry : (Code.ofScript (text (loopLines enabled width s))).entry = [] := by rw [hcode]
  rw [run, hentry]
  exact hrun

/-- Channels twice and below zero, and a frame without targets, for three passes. -/
theorem looped_plays_thrice : ∃ script,
    looped [1, -2, 1] (some 1) ⟨"Wave", [⟨"A", 500, [7, 8]⟩, ⟨"B", -3, []⟩]⟩ = .ok script ∧
      ∀ m : Machine, ∃ m', run (Code.ofScript script) 1 3 m = .ok m' ∧
        Plays [1, -2, 1] (List.replicate 3 [⟨"A", 500, [7, 8]⟩, ⟨"B", -3, []⟩]).flatten m m' := by
  obtain ⟨script, hscript, hplays⟩ := (looped_plays [1, -2, 1] (some 1)
    ⟨"Wave", [⟨"A", 500, [7, 8]⟩, ⟨"B", -3, []⟩]⟩).1 (by decide +kernel)
  exact ⟨script, hscript, fun m => hplays 0 3 m⟩

/-- A duration with one digit too many has no script. -/
theorem looped_long_duration :
    looped [0] none ⟨"Wave", [⟨"A", Nat.pow 10 Numeral.maxDigits, [0]⟩]⟩ = .error .tooLongToWrite := by
  refine looped_eq_error none fun h => ?_
  have hduration := (h _ (List.mem_singleton_self _)).duration
  exact Bool.noConfusion (hduration.symm.trans Numeral.isShort_bound)

end ServoScript.Machine
