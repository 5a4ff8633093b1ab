import Mathlib.Data.List.Induction
import ServoScript.Proofs.MinimalUpdate
import ServoScript.Proofs.ProgramPlayback

/-!
# Looped scripts are closed

A looped script defines the subroutines that its frames call, each once and in the order of the first calls.
Whether a frame calls a subroutine depends on its update, and what is defined on the registry, which is filled
while the frames are written. That the two stay in step is read off the text: off the headers and off the
calls on the lines within the loop.
-/

namespace ServoScript.Script

/-- The subroutines that are called on a line; a header calls none. -/
def lineCalls (line : Text) : List Text :=
  match header? line with
  | some _ => []
  | none => (lineTokens line).filter (!isReserved ·)

def calls (lines : List Text) : List Text :=
  lines.flatMap lineCalls

def loopBody (script : Text) : List Text :=
  ((Text.split '\n' script).dropWhile fun line => lineTokens line ≠ [loopStart]).tail.takeWhile
    fun line => lineTokens line ≠ [loopEnd]

/-! ### Calls -/

theorem isReserved_ofInt (n : Int) : isReserved (Text.ofInt n) = true := by
  rw [isReserved, Instruction.literal?_ofInt]
  rfl

theorem isReserved_setterName (channels : List Int) : isReserved (setterName channels) = false := by
  have hliteral : Instruction.literal? (setterName channels) = none :=
    Instruction.literal?_of_head (by decide) (by decide)
  have hword : setterName channels ∉
      [("sub" : Text), ("return" : Text), loopStart, loopEnd, setInstruction, ("delay" : Text)] := by
    simp only [List.mem_cons, List.not_mem_nil, or_false, not_or]
    refine ⟨?_, ?_, ?_, ?_, ?_, ?_⟩
    all_goals exact setterName_ne channels (by decide)
  rw [isReserved, hliteral, decide_eq_false hword]
  rfl

theorem lineCalls_eq {line : Text} (h : ("sub" : Text) ∉ lineTokens line) :
    lineCalls line = (lineTokens line).filter (!isReserved ·) := by
  rw [lineCalls, header?_eq_none h]

theorem calls_append (lines more : List Text) : calls (lines ++ more) = calls lines ++ calls more :=
  List.flatMap_append

theorem calls_eq {lines : List Text} (h : ("sub" : Text) ∉ lines.flatMap lineTokens) :
    calls lines = (lines.flatMap lineTokens).filter (!isReserved ·) := by
  rw [calls, List.filter_flatMap]
  refine List.flatMap_congr fun line hline => lineCalls_eq fun hsub => h ?_
  exact List.mem_flatMap.mpr ⟨line, hline, hsub⟩

variable (enabled : List Int) (width : LineWidth)

theorem filter_playTokens (f : Frame) (u : Update) :
    (playTokens f u).filter (!isReserved ·) = if u.isEmpty then [] else [setterName u.channels] := by
  have hvalues : (u.values.map Text.ofInt).filter (!isReserved ·) = [] := by
    rw [List.filter_eq_nil_iff]
    intro token ht
    obtain ⟨n, _, rfl⟩ := List.mem_map.mp ht
    simp [isReserved_ofInt]
  have hdelay : [("delay" : Text)].filter (!isReserved ·) = [] := by decide
  have hname : [setterName u.channels].filter (!isReserved ·) = [setterName u.channels] := by
    rw [List.filter_singleton, isReserved_setterName]
    rfl
  rw [playTokens, List.filter_cons_of_neg (by simp [isReserved_ofInt])]
  by_cases hu : u.isEmpty
  · rw [if_pos hu, if_pos hu, hdelay]
  · rw [if_neg hu, if_neg hu, List.filter_append, hvalues, hname, List.nil_append]

theorem flatMap_setterName (updates : List Update) :
    updates.flatMap (fun u => if u.isEmpty then [] else [setterName u.channels]) =
      (channelLists updates).map setterName := by
  induction updates with
  | nil => rfl
  | cons u updates ih =>
    rw [List.flatMap_cons, ih, channelLists_cons u updates, List.map_append]
    cases u <;> rfl

/-- The frames call the subroutines of the lists that they need, in order. -/
theorem calls_sequenceLines (frames : List Frame) :
    calls (sequenceLines enabled width frames) = (neededLists enabled frames).map setterName := by
  have hsub : ("sub" : Text) ∉ sequenceTokens enabled frames :=
    not_mem_sequenceTokens enabled frames (by decide) (by decide) (by decide)
  have hzip : (frames.zip (Update.ofFrames enabled frames)).map Prod.snd =
      Update.ofFrames enabled frames := by
    exact List.map_snd_zip (Nat.le_of_eq (Update.length_ofFrames enabled frames))
  rw [← tokens_sequenceLines enabled width] at hsub
  rw [calls_eq hsub, tokens_sequenceLines, sequenceTokens, List.filter_flatMap]
  simp only [filter_playTokens]
  rw [neededLists, ← flatMap_setterName, ← hzip, List.flatMap_map, hzip]

theorem calls_setterLines (channels : List Int) : calls (setterLines channels) = [] := by
  rw [calls, List.flatMap_eq_nil_iff]
  intro line hl
  simp only [setterLines, List.cons_append, List.mem_cons, List.mem_append, List.mem_map,
    List.not_mem_nil, or_false] at hl
  rcases hl with rfl | ⟨channel, _, rfl⟩ | rfl | rfl
  · rw [lineCalls, header?_header (isToken_setterName channels)]
  · have hsub : ("sub" : Text) ∉ [Text.ofInt channel, setInstruction] := by
      rw [List.mem_pair]
      exact not_or.mpr ⟨ofInt_ne (by decide) channel, by decide⟩
    rw [← lineTokens_setter] at hsub
    have hset : isReserved setInstruction = true := by decide
    rw [lineCalls_eq hsub, lineTokens_setter]
    simp [isReserved_ofInt, hset]
  · decide
  · decide

/-! ### The lines of a looped script -/

theorem loopBody_looped (s : Sequence) :
    loopBody (text (loopLines enabled width s)) = sequenceLines enabled width s.frames := by
  have htitle : lineTokens (title s.name) ≠ [loopStart] := by simp [title]
  have hstart : lineTokens loopStart = [loopStart] := by decide
  have hend : lineTokens loopEnd = [loopEnd] := by decide
  -- The frames have no word of a loop in them, so the loop ends where its last line says so.
  have hframes : ∀ line ∈ sequenceLines enabled width s.frames,
      decide (lineTokens line ≠ [loopEnd]) = true := by
    intro line hl
    have hnot : loopEnd ∉ sequenceTokens enabled s.frames :=
      not_mem_sequenceTokens enabled s.frames (by decide) (by decide) (by decide)
    rw [← tokens_sequenceLines enabled width] at hnot
    refine decide_eq_true fun he => hnot ?_
    exact List.mem_flatMap.mpr ⟨line, hl, he ▸ List.mem_singleton_self loopEnd⟩
  rw [loopBody, split_text (no_feed_loopLines enabled width s), loopLines]
  simp only [List.append_assoc, List.cons_append, List.nil_append]
  rw [List.dropWhile_cons_of_pos (by simpa using htitle), List.dropWhile_cons_of_neg (by simp [hstart]),
    List.tail_cons, List.takeWhile_append_of_pos hframes, List.takeWhile_cons_of_neg (by simp [hend]),
    List.append_nil]

theorem calls_loopLines (s : Sequence) :
    calls (loopLines enabled width s) = calls (sequenceLines enabled width s.frames) := by
  have htitle : lineCalls (title s.name) = [] := by
    rw [lineCalls_eq (by simp [title])]
    simp [title]
  have hstart : lineCalls loopStart = [] := by decide
  have hend : calls [loopEnd, []] = [] := by decide
  have hsetters : calls ((setterLists enabled [s]).flatMap fun channels => setterLines channels ++ [[]]) =
      [] := by
    rw [calls, List.flatMap_assoc, List.flatMap_eq_nil_iff]
    intro channels _
    exact (calls_append _ _).trans (by rw [calls_setterLines]; rfl)
  have hopen : calls [title s.name, loopStart] = [] := by
    rw [calls, List.flatMap_cons, htitle, List.flatMap_singleton, hstart]
    rfl
  rw [loopLines, calls_append, calls_append, calls_append, hopen, hend, hsetters, List.append_nil,
    List.append_nil, List.nil_append]

theorem headers_looped (s : Sequence) :
    headers (text (loopLines enabled width s)) = (setterLists enabled [s]).map setterName := by
  have htitle : header? (title s.name) = none := header?_eq_none (by simp [title])
  have hstart : header? loopStart = none := by decide
  have hend : header? loopEnd = none := by decide
  rw [headers_text (no_feed_loopLines enabled width s), loopLines]
  simp only [List.filterMap_append, List.filterMap_cons, htitle, hstart, hend, header?_nil,
    List.filterMap_nil, headers_sequenceLines, List.nil_append, List.filterMap_flatMap, headers_setterLines,
    List.append_nil]
  rw [← List.map_eq_flatMap]

theorem eraseDups_map {α β : Type} [BEq α] [LawfulBEq α] [BEq β] [LawfulBEq β] {f : α → β} {l : List α}
    (h : ∀ a ∈ l, ∀ b ∈ l, f a = f b → a = b) : (l.map f).eraseDups = l.eraseDups.map f := by
  -- The first of equal elements is kept: seen from the end, whether the last one is new decides.
  induction l using List.reverseRecOn with
  | nil => rfl
  | append_singleton l b ih =>
    have hl : ∀ a ∈ l, ∀ c ∈ l, f a = f c → a = c :=
      fun a ha c hc => h a (List.mem_append_left _ ha) c (List.mem_append_left _ hc)
    have hlast : f b ∈ l.map f ↔ b ∈ l := by
      refine ⟨fun hm => ?_, List.mem_map_of_mem⟩
      obtain ⟨a, ha, he⟩ := List.mem_map.mp hm
      rwa [← h a (List.mem_append_left _ ha) b (List.mem_append_right _ (List.mem_singleton_self b)) he]
    have helem : (l.map f).elem (f b) = l.elem b := by
      rw [Bool.eq_iff_iff, List.elem_iff, List.elem_iff, hlast]
    rw [List.map_append, List.eraseDups_append, List.eraseDups_append, List.map_append, ih hl]
    rw [List.map_singleton, List.removeAll, List.removeAll, List.filter_singleton, List.filter_singleton,
      helem]
    cases l.elem b <;> rfl

theorem setterLists_eq (s : Sequence) :
    setterLists enabled [s] = (neededLists enabled s.frames).eraseDups := by
  rw [setterLists, List.flatMap_singleton, Registry.addAll_empty_lists]

theorem eraseDups_calls (s : Sequence) :
    (calls (sequenceLines enabled width s.frames)).eraseDups = (setterLists enabled [s]).map setterName := by
  rw [calls_sequenceLines, setterLists_eq]
  apply eraseDups_map
  intro a ha b hb
  exact setterName_injective (ne_nil_of_mem_neededLists enabled ha) (ne_nil_of_mem_neededLists enabled hb)

/-- A sequence is compiled unless an integer in its script has too many digits; nothing else can go wrong.
No name is in two headers of the script, and the names in the headers are the names of the subroutines, in
order. They are the names that are called within the loop, each where it is first called, and nothing is
called elsewhere. Every channel list is made of some of the enabled channels in their order, and of at least
one. -/
theorem compiled_closed (s : Sequence) :
    (s.Printable enabled → ∃ c, Compiled.ofSequence enabled width s = .ok c ∧
      (headers c.script).Nodup ∧ headers c.script = c.subroutineNames ∧
      (calls (loopBody c.script)).eraseDups = c.subroutineNames ∧
      calls (Text.split '\n' c.script) = calls (loopBody c.script) ∧
      ∀ channels ∈ c.channelLists, channels ≠ [] ∧ channels.Sublist enabled) ∧
    (¬ s.Printable enabled → Compiled.ofSequence enabled width s = .error .tooLongToWrite) := by
  refine ⟨fun h => ⟨_, compiled_eq width h, ?_, headers_looped enabled width s, ?_, ?_, ?_⟩,
    compiled_eq_error width⟩
  · rw [headers_looped]
    exact nodup_setterNames enabled [s]
  · rw [loopBody_looped]
    exact eraseDups_calls enabled width s
  · have hlast : calls [[]] = [] := rfl
    rw [split_text (no_feed_loopLines enabled width s), loopBody_looped, calls_append, hlast,
      List.append_nil, calls_loopLines]
  · intro channels hc
    rw [setterLists_eq, List.mem_eraseDups] at hc
    exact ⟨ne_nil_of_mem_neededLists enabled hc, sublist_of_mem_neededLists hc⟩

/-- The second frame changes one of the channels of the first, and the third changes nothing. -/
theorem compiled_closed_wave :
    ∃ c, Compiled.ofSequence [3, 0] none
        ⟨"Wave", [⟨"A", 500, [1, 2, 3, 4]⟩, ⟨"B", 300, [1, 2, 3, 5]⟩, ⟨"C", 300, [1, 2, 3, 5]⟩]⟩ = .ok c ∧
      (headers c.script).Nodup ∧ headers c.script = c.subroutineNames := by
  obtain ⟨c, hc, hnodup, hheaders, _⟩ := (compiled_closed [3, 0] none
    ⟨"Wave", [⟨"A", 500, [1, 2, 3, 4]⟩, ⟨"B", 300, [1, 2, 3, 5]⟩, ⟨"C", 300, [1, 2, 3, 5]⟩]⟩).1
    (by decide +kernel)
  exact ⟨c, hc, hnodup, hheaders⟩

/-- A target with one digit too many stops the compilation. -/
theorem compiled_long_target :
    Compiled.ofSequence [0] none ⟨"Wave", [⟨"A", 500, [Nat.pow 10 Numeral.maxDigits]⟩]⟩ =
      .error .tooLongToWrite := by
  refine compiled_eq_error none fun h => ?_
  have htarget := (h _ (List.mem_singleton_self _)).targets 0 (List.mem_singleton_self _)
  exact Bool.noConfusion (htarget.symm.trans Numeral.isShort_bound)

end ServoScript.Script
