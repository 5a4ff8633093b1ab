import ServoScript.Proofs.Headers
import ServoScript.Proofs.Playback

/-!
# Programs play the sequence that is called

Every sequence of a program is a subroutine. Where all names of the program differ and can be called,
calling a sequence plays its frames from any state, whatever the other sequences are: all subroutines
that it needs are among those of the program, and its first frame does not rely on the frames of
another one.
-/

namespace ServoScript

namespace Script

/-- Whether a word means something of its own in a script, so that it calls no subroutine. -/
def isReserved (t : Text) : Bool :=
  (Instruction.literal? t).isSome ||
    t ∈ [("sub" : Text), ("return" : Text), loopStart, loopEnd, setInstruction, ("delay" : Text)]

theorem ofToken_of_not_reserved {t : Text} (h : isReserved t = false) :
    Instruction.ofToken t = .call t := by
  simp only [isReserved, Bool.or_eq_false_iff, Option.isSome_eq_false_iff, Option.isNone_iff_eq_none,
    decide_eq_false_iff_not, List.mem_cons, not_or] at h
  obtain ⟨hl, -, -, -, -, hs, hd, -⟩ := h
  rw [Instruction.ofToken, hl]
  exact (if_neg hs).trans (if_neg hd)

end Script

namespace Machine

open Script

variable {enabled : List Int} {width : LineWidth} {sequences : List Sequence}

/-- In a program without a clash, all that is defined is found under its name. -/
theorem subroutine?_program
    (hn : (headers (text (assembledLines enabled width sequences))).Nodup) {name : Text}
    {body : List Instruction}
    (h : (name, body) ∈ programSubroutines enabled sequences) :
    (Code.ofScript (text (assembledLines enabled width sequences))).subroutine? name =
      some body := by
  rw [headers_program] at hn
  rw [Code.ofScript_program]
  apply Code.subroutine?_of_mem _ h
  simpa [programSubroutines, setterSubroutines, Function.comp_def] using hn

theorem call_sequence
    (hn : (headers (text (assembledLines enabled width sequences))).Nodup) {s : Sequence}
    (hs : s ∈ sequences) (depth : Nat) (m : Machine) :
    ∃ m', call (Code.ofScript (text (assembledLines enabled width sequences))) (depth + 2)
        (Identifier.ofName s.name) m = .ok m' ∧ Plays enabled s.frames m m' := by
  have hbody := subroutine?_program hn
    (List.mem_append.mpr (Or.inl (List.mem_map.mpr ⟨s, hs, rfl⟩)))
  rw [call, hbody]
  apply exec_sequenceCode
  intro channels hc
  have hm : channels ∈ setterLists enabled sequences :=
    (mem_setterLists enabled).mpr ⟨s, hs, hc⟩
  exact subroutine?_program hn
    (List.mem_append.mpr (Or.inr (List.mem_map.mpr ⟨channels, hm, rfl⟩)))

/-- A program is written unless an integer in it has too many digits. Where the names in its headers are
all different and none is reserved, calling the subroutine of any of its sequences, from any state, ends
with the stack as it was; it waits once for each frame of that sequence, in order, for its duration and
with its targets on all enabled channels, and no other channel is ever written. -/
theorem program_plays (enabled : List Int) (width : LineWidth) (sequences : List Sequence) :
    ((∀ s ∈ sequences, s.Printable enabled) → ∃ script, program enabled width sequences = .ok script ∧
      ((headers script).Nodup → (∀ name ∈ headers script, isReserved name = false) →
        ∀ (i : Nat) (hi : i < sequences.length) (depth : Nat) (m : Machine), ∃ m',
          exec (Code.ofScript script) (depth + 2)
              [Instruction.ofToken (Identifier.ofName sequences[i].name)] m = .ok m' ∧
            Plays enabled sequences[i].frames m m')) ∧
    ((¬ ∀ s ∈ sequences, s.Printable enabled) →
      program enabled width sequences = .error .tooLongToWrite) := by
  refine ⟨fun hprint => ⟨_, program_eq width hprint, ?_⟩, program_eq_error width⟩
  intro hn hr i hi depth m
  have hs : sequences[i] ∈ sequences := List.getElem_mem hi
  have hheader : Identifier.ofName sequences[i].name ∈
      headers (text (assembledLines enabled width sequences)) := by
    rw [headers_program]
    exact List.mem_append.mpr (Or.inl (List.mem_map.mpr ⟨_, hs, rfl⟩))
  obtain ⟨m', hrun, hplays⟩ := call_sequence hn hs depth m
  refine ⟨m', ?_, hplays⟩
  rw [ofToken_of_not_reserved (hr _ hheader), exec_cons]
  change call _ _ _ m >>= _ = _
  rw [hrun]
  rfl

/-- Two sequences that share a channel list, of which the second is called. -/
theorem program_plays_second :
    ∃ script, program [0, 1] (some 1)
        [⟨"Wave", [⟨"A", 500, [1000, 2000]⟩, ⟨"B", 300, [1000, 2500]⟩]⟩,
          ⟨"Wink", [⟨"C", 100, [0, 0]⟩, ⟨"D", 100, [5, 0]⟩]⟩] = .ok script ∧
      ∀ m : Machine, ∃ m', exec (Code.ofScript script) 2 [.call "Wink"] m = .ok m' ∧
        Plays [0, 1] [⟨"C", 100, [0, 0]⟩, ⟨"D", 100, [5, 0]⟩] m m' := by
  have hprint : ∀ s ∈ ([⟨"Wave", [⟨"A", 500, [1000, 2000]⟩, ⟨"B", 300, [1000, 2500]⟩]⟩,
      ⟨"Wink", [⟨"C", 100, [0, 0]⟩, ⟨"D", 100, [5, 0]⟩]⟩] : List Sequence), s.Printable [0, 1] := by
    decide +kernel
  obtain ⟨script, hs, h⟩ := (program_plays [0, 1] (some 1) _).1 hprint
  have he := Except.ok.inj (hs.symm.trans (program_eq (some 1) hprint))
  have hh : headers script = [("Wave" : Text), ("Wink" : Text), ("frame_0_1" : Text),
      ("frame_1" : Text), ("frame_0" : Text)] := by
    rw [he, headers_program]
    decide +kernel
  have hn : (headers script).Nodup := by
    rw [hh]
    decide
  have hr : ∀ name ∈ headers script, isReserved name = false := by
    rw [hh]
    decide
  exact ⟨script, hs, fun m => h hn hr 1 (by decide) 0 m⟩

end Machine

end ServoScript
