import Mathlib.Algebra.BigOperators.Group.List.Basic
import Mathlib.Algebra.Ring.Nat
import ServoScript.Proofs.ClosedScript

/-!
# How many lines a script has

A script has a line for each feed in it. A reader sees more lines: other characters end a line for it, and a
name takes them along into its comment, where only returns and feeds are replaced. Each of them makes the
script one line longer.
-/

namespace ServoScript

namespace Text

theorem isBlank_of_isLineBreak {c : CodePoint} (h : isLineBreak c = true) : isBlank c = true := by
  simp only [isLineBreak, isBlank, Bool.or_eq_true, Bool.and_eq_true, decide_eq_true_eq, beq_iff_eq] at h ⊢
  omega

theorem linesFrom_cons (line : Text) {c : CodePoint} (hc : c ≠ '\r') (t : Text) :
    linesFrom line (c :: t) =
      if isLineBreak c then line.reverse :: linesFrom [] t else linesFrom (c :: line) t := by
  rw [linesFrom]
  intro rest he
  exact absurd he hc

theorem length_linesFrom (line : Text) {t : Text} (h : CodePoint.char '\r' ∉ t) (rest : Text) :
    (linesFrom line (t ++ CodePoint.char '\n' :: rest)).length =
      t.countP isLineBreak + 1 + (lines rest).length := by
  induction t generalizing line with
  | nil =>
    rw [List.nil_append, linesFrom_cons line (by decide), if_pos (by decide), List.length_cons, lines,
      List.countP_nil]
    omega
  | cons c t ih =>
    have hc : c ≠ '\r' := fun he => h (he ▸ List.mem_cons_self)
    have ht : CodePoint.char '\r' ∉ t := fun hm => h (List.mem_cons_of_mem c hm)
    rw [List.cons_append, linesFrom_cons line hc]
    by_cases hbreak : isLineBreak c = true
    · rw [if_pos hbreak, List.length_cons, ih [] ht, List.countP_cons_of_pos hbreak]
      omega
    · rw [if_neg hbreak, ih (c :: line) ht, List.countP_cons_of_neg hbreak]

end Text

namespace Script

/-- The characters of a name that end a line for a reader, but stay in a comment. -/
def isKeptBreak (c : CodePoint) : Bool :=
  Text.isLineBreak c && c != '\r' && c != '\n'

/-- A text without returns has so many line breaks. -/
structure Breaks (t : Text) (n : Nat) : Prop where
  no_return : CodePoint.char '\r' ∉ t
  count : t.countP Text.isLineBreak = n

instance (t : Text) (n : Nat) : Decidable (Breaks t n) :=
  decidable_of_iff (CodePoint.char '\r' ∉ t ∧ t.countP Text.isLineBreak = n)
    ⟨fun h => ⟨h.1, h.2⟩, fun h => ⟨h.no_return, h.count⟩⟩

theorem length_lines_text {lines : List Text} {n : Nat} (h : Breaks (text lines) n) :
    (Text.lines (text lines)).length = n := by
  obtain ⟨hreturn, rfl⟩ := h
  induction lines with
  | nil => rfl
  | cons line lines ih =>
    rw [text_cons, List.mem_append, not_or] at hreturn
    have hrest : CodePoint.char '\r' ∉ text lines := fun hm => hreturn.2 (List.mem_cons_of_mem _ hm)
    rw [text_cons, Text.lines, Text.length_linesFrom [] hreturn.1, ih hrest, List.countP_append,
      List.countP_cons_of_pos (by decide)]
    omega

/-! ### Parts of texts -/

variable {t u : Text} {m n : Nat}

theorem Breaks.append (ht : Breaks t m) (hu : Breaks u n) : Breaks (t ++ u) (m + n) where
  no_return := by
    rw [List.mem_append]
    exact not_or.mpr ⟨ht.no_return, hu.no_return⟩
  count := by rw [List.countP_append, ht.count, hu.count]

theorem breaks_zero (h : ∀ c ∈ t, Text.isLineBreak c = false) : Breaks t 0 where
  no_return hm := absurd (h '\r' hm) (by decide)
  count := by
    rw [List.countP_eq_zero]
    intro c hc
    simp [h c hc]

theorem IsToken.breaks (h : IsToken t) : Breaks t 0 := by
  apply breaks_zero
  intro c hc
  by_contra hbreak
  have hblank := Text.isBlank_of_isLineBreak (Bool.of_not_eq_false hbreak)
  rw [h.not_blank c hc] at hblank
  cases hblank

theorem breaks_cells (row : List Int) : Breaks (cells row) 0 := by
  induction row with
  | nil => decide
  | cons value row ih =>
    have hblank : Breaks [' '] 0 := by decide
    exact ((isToken_ofInt value).breaks.append hblank).append ih

theorem comment_eq_map (name : Text) :
    comment name = name.map fun (c : CodePoint) => if c = '\r' ∨ c = '\n' then CodePoint.char ' ' else c := by
  rw [comment, Text.replace, Text.replace, List.map_map]
  apply List.map_congr_left
  intro c _
  by_cases hr : c = '\r'
  · simp [hr]
  · by_cases hn : c = '\n'
    · simp [hn]
    · simp [hr, hn]

/-- Of the breaks in a name, a comment loses returns and feeds. -/
theorem breaks_comment (name : Text) : Breaks (comment name) (name.countP isKeptBreak) := by
  rw [comment_eq_map]
  refine ⟨fun h => ?_, ?_⟩
  · obtain ⟨c, _, hc⟩ := List.mem_map.mp h
    by_cases hreplaced : c = '\r' ∨ c = '\n'
    · simp [hreplaced] at hc
    · rw [if_neg hreplaced] at hc
      exact hreplaced (Or.inl hc)
  · rw [List.countP_map]
    apply List.countP_congr
    intro c _
    by_cases hr : c = '\r'
    · subst hr
      decide
    · by_cases hn : c = '\n'
      · subst hn
        decide
      · simp [isKeptBreak, hr, hn]

theorem breaks_note (name : Text) : Breaks (" # " ++ comment name) (name.countP isKeptBreak) := by
  have hmark : Breaks (" # " : Text) 0 := by decide
  have hnote := hmark.append (breaks_comment name)
  rwa [Nat.zero_add] at hnote

/-! ### Lines -/

theorem Breaks.cons_line (h : Breaks t m) {lines : List Text} (hlines : Breaks (text lines) n) :
    Breaks (text (t :: lines)) (m + 1 + n) := by
  have hfeed : Breaks ['\n'] 1 := by decide
  have hall := (h.append hfeed).append hlines
  rwa [List.append_assoc, List.singleton_append, ← text_cons] at hall

theorem Breaks.append_lines {lines more : List Text} (h : Breaks (text lines) m)
    (hmore : Breaks (text more) n) : Breaks (text (lines ++ more)) (m + n) := by
  rw [text_append]
  exact h.append hmore

theorem breaks_text_nil : Breaks (text []) 0 := by decide

/-- Lines without breaks in them have only those at their ends. -/
theorem breaks_text {lines : List Text} (h : ∀ line ∈ lines, Breaks line 0) :
    Breaks (text lines) lines.length := by
  induction lines with
  | nil => exact breaks_text_nil
  | cons line lines ih =>
    obtain ⟨hline, hlines⟩ := List.forall_mem_cons.mp h
    have hall := hline.cons_line (ih hlines)
    rwa [Nat.zero_add, Nat.add_comm] at hall

theorem breaks_flatMap {α : Type} {l : List α} {make : α → List Text} {count : α → Nat}
    (h : ∀ a ∈ l, Breaks (text (make a)) (count a)) :
    Breaks (text (l.flatMap make)) (l.map count).sum := by
  induction l with
  | nil => exact breaks_text_nil
  | cons a l ih =>
    obtain ⟨ha, hl⟩ := List.forall_mem_cons.mp h
    rw [List.flatMap_cons, List.map_cons, List.sum_cons]
    exact ha.append_lines (ih hl)

theorem breaks_playLines (f : Frame) (u : Update) :
    Breaks (text (playLines none f u)) (f.name.countP isKeptBreak + 1) := by
  have hindent : Breaks indent 0 := by decide
  have hblank : Breaks [' '] 0 := by decide
  have hlead : Breaks (indent ++ (Text.ofInt f.duration ++ [CodePoint.char ' '])) 0 :=
    hindent.append ((isToken_ofInt f.duration).breaks.append hblank)
  by_cases hu : u = []
  · have hdelay : Breaks ("delay" : Text) 0 := by decide
    have hline := ((hlead.append hdelay).append (breaks_note f.name)).cons_line breaks_text_nil
    simpa [playLines, hu] using hline
  · have hcall := (isToken_setterName u.channels).breaks.append (breaks_note f.name)
    have hline := ((hlead.append (breaks_cells u.values)).append hcall).cons_line breaks_text_nil
    simpa [playLines, hu, rows, rowLines] using hline

theorem breaks_setterLines (channels : List Int) :
    Breaks (text (setterLines channels ++ [[]])) (channels.length + 4) := by
  have hlength : (setterLines channels ++ [[]]).length = channels.length + 4 := by simp [setterLines]
  have hindent : Breaks indent 0 := by decide
  rw [← hlength]
  apply breaks_text
  intro line hl
  simp only [setterLines, List.cons_append, List.mem_cons, List.mem_append, List.mem_map,
    List.not_mem_nil, or_false] at hl
  rcases hl with rfl | (⟨channel, _, rfl⟩ | rfl | rfl) | rfl
  · have hsub : Breaks ("sub " : Text) 0 := by decide
    exact hsub.append (isToken_setterName channels).breaks
  · have hset : Breaks (" " ++ setInstruction) 0 := by decide
    have hline := (hindent.append (isToken_ofInt channel).breaks).append hset
    rwa [← List.append_assoc] at hline
  · decide
  · decide
  · decide

/-! ### Scripts -/

theorem breaks_sequenceLines (enabled : List Int) (frames : List Frame) :
    Breaks (text (sequenceLines enabled none frames))
      (frames.map fun f => f.name.countP isKeptBreak + 1).sum := by
  have hframes : Breaks (text (sequenceLines enabled none frames))
      ((frames.zip (Update.ofFrames enabled frames)).map fun p => p.1.name.countP isKeptBreak + 1).sum :=
    breaks_flatMap fun p _ => breaks_playLines p.1 p.2
  have hzip : (frames.zip (Update.ofFrames enabled frames)).map Prod.fst = frames :=
    List.map_fst_zip (Nat.le_of_eq (Update.length_ofFrames enabled frames).symm)
  rw [← hzip, List.map_map]
  rw [hzip]
  exact hframes

theorem breaks_loopLines (enabled : List Int) (s : Sequence) :
    Breaks (text (loopLines enabled none s))
      (4 + s.frames.length + ((setterLists enabled [s]).map fun channels => channels.length + 4).sum +
        ((s.name :: s.frames.map Frame.name).map fun name => name.countP isKeptBreak).sum) := by
  have htitle : Breaks (title s.name) (0 + s.name.countP isKeptBreak) := by
    have hmark : Breaks ("# " : Text) 0 := by decide
    exact hmark.append (breaks_comment s.name)
  have hstart : Breaks (text [loopStart]) 1 := by decide
  have hend : Breaks (text [loopEnd, []]) 2 := by decide
  have hsetters : Breaks (text ((setterLists enabled [s]).flatMap fun channels => setterLines channels ++ [[]]))
      ((setterLists enabled [s]).map fun channels => channels.length + 4).sum :=
    breaks_flatMap fun channels _ => breaks_setterLines channels
  have hall := (((htitle.cons_line hstart).append_lines (breaks_sequenceLines enabled s.frames)).append_lines
    hend).append_lines hsetters
  have hframes : (s.frames.map fun f => f.name.countP isKeptBreak + 1).sum =
      (s.frames.map fun f => f.name.countP isKeptBreak).sum + s.frames.length := by
    rw [List.sum_map_add, List.map_const', List.sum_replicate_nat, Nat.mul_one]
  have hsum : 0 + s.name.countP isKeptBreak + 1 + 1 +
      (s.frames.map fun f => f.name.countP isKeptBreak + 1).sum + 2 +
      ((setterLists enabled [s]).map fun channels => channels.length + 4).sum =
        4 + s.frames.length + ((setterLists enabled [s]).map fun channels => channels.length + 4).sum +
          ((s.name :: s.frames.map Frame.name).map fun name => name.countP isKeptBreak).sum := by
    rw [hframes, List.map_cons, List.sum_cons, List.map_map, Function.comp_def]
    omega
  rw [hsum] at hall
  exact hall

/-- A compiled sequence has a line for each frame, and for each subroutine four lines and one for each of its
channels, and four more. Each character in a name that ends a line and is neither a return nor a feed adds a
line, so that the count is right if and only if there is no such character. A sequence is not compiled if an
integer in its script has too many digits. -/
theorem lineCount_compiled (enabled : List Int) (s : Sequence) :
    (s.Printable enabled → ∃ c, Compiled.ofSequence enabled none s = .ok c ∧
      c.lineCount = 4 + s.frames.length + (c.channelLists.map fun channels => channels.length + 4).sum +
        ((s.name :: s.frames.map Frame.name).map fun name => name.countP isKeptBreak).sum ∧
      (c.lineCount = 4 + s.frames.length + (c.channelLists.map fun channels => channels.length + 4).sum ↔
        ∀ name ∈ s.name :: s.frames.map Frame.name, ∀ char ∈ name, isKeptBreak char = false)) ∧
    (¬ s.Printable enabled → Compiled.ofSequence enabled none s = .error .tooLongToWrite) := by
  have hcount := length_lines_text (breaks_loopLines enabled s)
  refine ⟨fun h => ⟨_, compiled_eq none h, hcount, ?_⟩, compiled_eq_error none⟩
  have hnone : ((s.name :: s.frames.map Frame.name).map fun name => name.countP isKeptBreak).sum = 0 ↔
      ∀ name ∈ s.name :: s.frames.map Frame.name, ∀ char ∈ name, isKeptBreak char = false := by
    rw [List.sum_eq_zero_iff_forall_eq_nat, List.forall_mem_map]
    refine forall₂_congr fun name _ => ?_
    rw [List.countP_eq_zero]
    simp only [Bool.not_eq_true]
  rw [← hnone]
  change (Text.lines (text (loopLines enabled none s))).length = _ ↔ _
  dsimp only
  omega

/-- A frame for each of two subroutines, and a name with a separator in it. -/
theorem lineCount_compiled_pair :
    ∃ c, Compiled.ofSequence [0, 1] none ⟨"a\u2028b", [⟨"A", 5, [1, 2]⟩, ⟨"B", 6, [1, 3]⟩]⟩ = .ok c ∧
      c.lineCount = 4 + 2 + (c.channelLists.map fun channels => channels.length + 4).sum + 1 := by
  obtain ⟨c, hc, hcount, _⟩ := (lineCount_compiled [0, 1]
    ⟨"a\u2028b", [⟨"A", 5, [1, 2]⟩, ⟨"B", 6, [1, 3]⟩]⟩).1 (by decide +kernel)
  exact ⟨c, hc, hcount⟩

/-- A line separator in the name of a sequence without frames makes a fifth line. -/
theorem lineCount_separator :
    ∃ c, Compiled.ofSequence [0] none ⟨"a\u2028b", []⟩ = .ok c ∧ c.channelLists = [] ∧ c.lineCount = 5 := by
  refine ⟨_, compiled_eq none (by decide), rfl, ?_⟩
  decide +kernel

end Script

end ServoScript
