import ServoScript.Proofs.Layout

/-!
# Scripts as code

Reading the tokens of a script gives back its blocks: the frames of a looped script are the body of
the loop, and every subroutine is found under its name. Nothing is left outside of the blocks, since
no token of a frame or of a subroutine closes a block.
-/

namespace ServoScript

namespace Script

/-- What a frame with its update does: it pushes its duration and its new targets and calls the
subroutine of their channels. -/
def playCode (f : Frame) (u : Update) : List Instruction :=
  .push f.duration ::
    if u.isEmpty then [.delay] else u.values.map .push ++ [.call (setterName u.channels)]

def sequenceCode (enabled : List Int) (frames : List Frame) : List Instruction :=
  (frames.zip (Update.ofFrames enabled frames)).flatMap fun p => playCode p.1 p.2

/-- What the subroutine of a channel list does: it sets the channels from the last to the first, and
waits. -/
def setterCode (channels : List Int) : List Instruction :=
  channels.reverse.flatMap (fun channel => [.push channel, .set]) ++ [.delay]

def setterSubroutines (lists : List (List Int)) : List (Text × List Instruction) :=
  lists.map fun channels => (setterName channels, setterCode channels)

/-- The subroutines of a program: first those of its sequences, then those of the channel lists. -/
def programSubroutines (enabled : List Int) (sequences : List Sequence) :
    List (Text × List Instruction) :=
  (sequences.map fun s => (Identifier.ofName s.name, sequenceCode enabled s.frames)) ++
    setterSubroutines (setterLists enabled sequences)

theorem ofToken_delay : Instruction.ofToken "delay" = .delay := by decide

theorem ofToken_playTokens (f : Frame) (u : Update) :
    (playTokens f u).map Instruction.ofToken = playCode f u := by
  by_cases hu : u = []
  · simp only [playTokens, playCode, hu, List.isEmpty_nil, if_true, List.map_cons,
      Instruction.ofToken_ofInt, ofToken_delay, List.map_nil]
  · simp [playTokens, playCode, hu, Instruction.ofToken_ofInt, ofToken_setterName]

theorem ofToken_sequenceTokens (enabled : List Int) (frames : List Frame) :
    (sequenceTokens enabled frames).map Instruction.ofToken = sequenceCode enabled frames := by
  simp only [sequenceTokens, sequenceCode, List.map_flatMap, ofToken_playTokens]

theorem ofToken_setterTokens (channels : List Int) :
    (setterTokens channels).map Instruction.ofToken = setterCode channels := by
  have hset : Instruction.ofToken setInstruction = .set := by decide
  simp only [setterTokens, setterCode, List.map_append, List.map_flatMap, List.map_cons,
    Instruction.ofToken_ofInt, hset, ofToken_delay, List.map_nil]

theorem ofInt_ne {t : Text} (h : Instruction.literal? t = none) (n : Int) : t ≠ Text.ofInt n := by
  rintro rfl
  rw [Instruction.literal?_ofInt] at h
  cases h

/-- The words that close blocks, and all others that are neither literals nor instructions nor names
of channel lists, do not occur in the frames of a list. -/
theorem not_mem_sequenceTokens (enabled : List Int) (frames : List Frame) {t : Text}
    (hl : Instruction.literal? t = none) (hd : t ≠ "delay") (hf : t.head? ≠ some (CodePoint.char 'f')) :
    t ∉ sequenceTokens enabled frames := by
  intro h
  obtain ⟨p, _, hp⟩ := List.mem_flatMap.mp h
  rcases List.mem_cons.mp hp with he | hp
  · exact ofInt_ne hl _ he
  · split at hp
    · exact hd (List.mem_singleton.mp hp)
    · rcases List.mem_append.mp hp with hp | hp
      · obtain ⟨n, _, he⟩ := List.mem_map.mp hp
        exact ofInt_ne hl n he.symm
      · exact setterName_ne _ hf (List.mem_singleton.mp hp).symm

theorem not_mem_setterTokens (channels : List Int) {t : Text} (hl : Instruction.literal? t = none)
    (hs : t ≠ setInstruction) (hd : t ≠ "delay") : t ∉ setterTokens channels := by
  intro h
  rcases List.mem_append.mp h with h | h
  · obtain ⟨channel, _, hc⟩ := List.mem_flatMap.mp h
    rcases List.mem_cons.mp hc with he | hc
    · exact ofInt_ne hl channel he
    · exact hs (List.mem_singleton.mp hc)
  · exact hd (List.mem_singleton.mp h)

end Script

namespace Code

open Script

/-- Where no two subroutines have the same name, each is found under its own. -/
theorem subroutine?_of_mem {code : Code} (hn : (code.subroutines.map Prod.fst).Nodup) {name : Text}
    {body : List Instruction} (h : (name, body) ∈ code.subroutines) :
    code.subroutine? name = some body := by
  rw [subroutine?]
  generalize code.subroutines = subroutines at hn h
  induction subroutines with
  | nil => exact absurd h List.not_mem_nil
  | cons p subroutines ih =>
    rw [List.map_cons, List.nodup_cons] at hn
    rcases List.mem_cons.mp h with rfl | hm
    · exact List.lookup_cons_self
    · have hne : name ≠ p.1 := fun he => hn.1 (he ▸ List.mem_map_of_mem hm)
      rw [List.lookup_cons, beq_false_of_ne hne]
      exact ih hn.2 hm

theorem readFrom_loop (code : Code) (body : List Instruction) {ts : List Text} (h : loopEnd ∉ ts)
    (rest : List Text) :
    readFrom code .loop body (ts ++ loopEnd :: rest) =
      readFrom ⟨code.entry, code.loop <|> some (body.reverse ++ ts.map Instruction.ofToken),
        code.subroutines⟩ .outside [] rest := by
  induction ts generalizing body with
  | nil =>
    rw [List.nil_append, readFrom, if_pos (show loopEnd = "repeat" from rfl)]
    simp
  | cons t ts ih =>
    have ht : t ≠ "repeat" := fun he => h (List.mem_cons.mpr (Or.inl he.symm))
    rw [List.cons_append, readFrom, if_neg ht, ih _ (fun hm => h (List.mem_cons_of_mem _ hm))]
    simp

theorem readFrom_subroutine (code : Code) (name : Text) (body : List Instruction) {ts : List Text}
    (h : ("return" : Text) ∉ ts) (rest : List Text) :
    readFrom code (.subroutine name) body (ts ++ ("return" : Text) :: rest) =
      readFrom ⟨code.entry, code.loop,
        code.subroutines ++ [(name, body.reverse ++ ts.map Instruction.ofToken)]⟩
        .outside [] rest := by
  induction ts generalizing body with
  | nil =>
    rw [List.nil_append, readFrom, if_pos rfl]
    simp
  | cons t ts ih =>
    have ht : t ≠ "return" := fun he => h (he ▸ List.mem_cons_self)
    rw [List.cons_append, readFrom, if_neg ht, ih _ (fun hm => h (List.mem_cons_of_mem _ hm))]
    simp

def ofBlock (block : Text × List Text) : Text × List Instruction :=
  (block.1, block.2.map Instruction.ofToken)

theorem readFrom_blocks (code : Code) {blocks : List (Text × List Text)}
    (h : ∀ block ∈ blocks, ("return" : Text) ∉ block.2) :
    readFrom code .outside [] (blockTokens blocks) =
      ⟨code.entry, code.loop, code.subroutines ++ blocks.map ofBlock⟩ := by
  induction blocks generalizing code with
  | nil => simp [blockTokens, readFrom]
  | cons block blocks ih =>
    have hb : ("return" : Text) ∉ block.2 := h block List.mem_cons_self
    have hsub : ("sub" : Text) ≠ "begin" := by decide
    have hcons : blockTokens (block :: blocks) = ("sub" : Text) :: block.1 ::
        (block.2 ++ ("return" : Text) :: blockTokens blocks) := by
      simp only [blockTokens, List.flatMap_cons, definition, List.append_assoc, List.cons_append,
        List.nil_append]
    rw [hcons, readFrom, if_neg hsub, if_pos rfl, readFrom, readFrom_subroutine _ _ _ hb,
      ih _ (fun b hm => h b (List.mem_cons_of_mem _ hm))]
    simp [ofBlock]

theorem readFrom_looped {ts : List Text} {blocks : List (Text × List Text)} (hts : loopEnd ∉ ts)
    (h : ∀ block ∈ blocks, ("return" : Text) ∉ block.2) :
    ofTokens (loopStart :: ts ++ loopEnd :: blockTokens blocks) =
      ⟨[], some (ts.map Instruction.ofToken), blocks.map ofBlock⟩ := by
  rw [ofTokens, List.cons_append, readFrom, if_pos (show loopStart = "begin" from rfl),
    readFrom_loop _ _ hts, readFrom_blocks _ h]
  rfl

theorem ofBlock_setterBlocks (lists : List (List Int)) :
    (setterBlocks lists).map ofBlock = setterSubroutines lists := by
  simp [setterBlocks, setterSubroutines, ofBlock, ofToken_setterTokens]

theorem return_not_mem_setterBlocks (lists : List (List Int)) :
    ∀ block ∈ setterBlocks lists, ("return" : Text) ∉ block.2 := by
  intro block hb
  obtain ⟨channels, _, rfl⟩ := List.mem_map.mp hb
  exact not_mem_setterTokens channels (by decide) (by decide) (by decide)

/-- The loop of a looped script plays the frames, and there is a subroutine for each of its channel
lists. -/
theorem ofScript_looped (enabled : List Int) (width : LineWidth) (s : Sequence) :
    ofScript (text (loopLines enabled width s)) =
      ⟨[], some (sequenceCode enabled s.frames),
        setterSubroutines (setterLists enabled [s])⟩ := by
  have hend : loopEnd ∉ sequenceTokens enabled s.frames :=
    not_mem_sequenceTokens enabled s.frames (by decide) (by decide) (by decide)
  rw [ofScript, tokens_looped, readFrom_looped hend (return_not_mem_setterBlocks _),
    ofToken_sequenceTokens, ofBlock_setterBlocks]

/-- A program has nothing but subroutines. -/
theorem ofScript_program (enabled : List Int) (width : LineWidth) (sequences : List Sequence) :
    ofScript (text (assembledLines enabled width sequences)) =
      ⟨[], none, programSubroutines enabled sequences⟩ := by
  have hret : ∀ block ∈ programBlocks enabled sequences, ("return" : Text) ∉ block.2 := by
    intro block hb
    rcases List.mem_append.mp hb with hb | hb
    · obtain ⟨s, _, rfl⟩ := List.mem_map.mp hb
      exact not_mem_sequenceTokens enabled s.frames (by decide) (by decide) (by decide)
    · exact return_not_mem_setterBlocks _ block hb
  rw [ofScript, tokens_program, ofTokens, readFrom_blocks _ hret, programBlocks, List.map_append,
    ofBlock_setterBlocks]
  simp [ofBlock, ofToken_sequenceTokens, programSubroutines]

end Code

end ServoScript
