import ServoScript.Proofs.Token
import ServoScript.Script.Program

/-!
# The lines of frames and subroutines

A frame, and a subroutine of a frame, is written unless an integer in it has too many digits. What is
written is read back as the pushes of the frame and one call, whatever the name of the frame and the
width of the lines: rows put only blanks and feeds between the values, and a name stays within its
comment.
-/

namespace ServoScript

namespace Script

@[simp] theorem lineTokens_indent (t : Text) : lineTokens (indent ++ t) = lineTokens t := by
  simp [indent]

theorem lineTokens_delay : lineTokens (indent ++ "delay") = [("delay" : Text)] := by decide

theorem lineTokens_return : lineTokens (indent ++ "return") = [("return" : Text)] := by decide

theorem no_feed_indent : CodePoint.char '\n' ∉ indent := by decide

theorem no_feed_comment (name : Text) : CodePoint.char '\n' ∉ comment name := by
  intro h
  obtain ⟨c, _, hc⟩ := List.mem_map.mp h
  by_cases hn : c = '\n'
  · subst hn
    exact absurd hc (by decide)
  · rw [if_neg (by simpa using hn)] at hc
    exact hn hc

/-! ### Rows -/

theorem flatten_consRow {α : Type} (a : α) (rows : List (List α)) :
    (consRow a rows).flatten = a :: rows.flatten := by
  cases rows <;> rfl

theorem flatten_rowsFrom {α : Type} (width room : Nat) (values : List α) :
    (rowsFrom width room values).flatten = values := by
  induction values generalizing room with
  | nil => cases room <;> rfl
  | cons a values ih =>
    cases room with
    | zero => rw [rowsFrom, List.flatten_cons, flatten_consRow, ih, List.nil_append]
    | succ room => rw [rowsFrom, flatten_consRow, ih]

theorem flatten_rows {α : Type} (width : LineWidth) (values : List α) :
    (rows width values).flatten = values := by
  cases width with
  | none => simp [rows]
  | some n => exact flatten_rowsFrom n n values

theorem lineTokens_cells (row : List Int) (t : Text) :
    lineTokens (cells row ++ t) = row.map Text.ofInt ++ lineTokens t := by
  induction row with
  | nil => rfl
  | cons value row ih =>
    have hc : cells (value :: row) ++ t = Text.ofInt value ++ CodePoint.char ' ' :: (cells row ++ t) := by
      simp [cells]
    rw [hc, lineTokens_token_space (isToken_ofInt value), ih]
    rfl

theorem no_feed_cells (row : List Int) : CodePoint.char '\n' ∉ cells row := by
  intro h
  obtain ⟨value, _, hc⟩ := List.mem_flatMap.mp h
  rcases List.mem_append.mp hc with hv | hb
  · exact (isToken_ofInt value).no_feed hv
  · exact absurd hb (by decide)

/-- The tokens of rows are those of their values, between the tokens of what stands before the first
and behind the last. -/
theorem tokens_rowLines {lead : Text} {start : List Text} (close : Text)
    (hlead : ∀ t, lineTokens (lead ++ t) = start ++ lineTokens t) (rows : List (List Int)) :
    (rowLines lead close rows).flatMap lineTokens =
      start ++ rows.flatten.map Text.ofInt ++ lineTokens close := by
  fun_induction rowLines lead close rows generalizing start with
  | case1 lead => simp [hlead]
  | case2 lead row => simp [hlead, lineTokens_cells]
  | case3 lead row rest hne ih =>
    have hrow : lineTokens (cells row) = row.map Text.ofInt := by
      simpa using lineTokens_cells row []
    have hrest := @ih [] (fun t => rfl)
    simp [hlead, hrow, hrest]

theorem no_feed_rowLines {lead close : Text} (hlead : CodePoint.char '\n' ∉ lead)
    (hclose : CodePoint.char '\n' ∉ close)
    (rows : List (List Int)) : ∀ line ∈ rowLines lead close rows, CodePoint.char '\n' ∉ line := by
  fun_induction rowLines lead close rows with
  | case1 lead => simp [no_feed_indent, hlead, hclose]
  | case2 lead row => simp [no_feed_indent, no_feed_cells, hlead, hclose]
  | case3 lead row rest hne ih =>
    intro line hl
    rcases List.mem_cons.mp hl with rfl | hl
    · simp [no_feed_indent, no_feed_cells, hlead]
    · exact ih List.not_mem_nil line hl

/-! ### Frames -/

/-- The lines of a frame with its update, if all integers in them can be written. -/
def playLines (width : LineWidth) (f : Frame) (u : Update) : List Text :=
  let lead := Text.ofInt f.duration ++ [CodePoint.char ' ']
  let note := " # " ++ comment f.name
  if u.isEmpty then [indent ++ lead ++ "delay" ++ note]
  else rowLines lead (setterName u.channels ++ note) (rows width u.values)

def playTokens (f : Frame) (u : Update) : List Text :=
  Text.ofInt f.duration ::
    if u.isEmpty then ["delay"] else u.values.map Text.ofInt ++ [setterName u.channels]

theorem channels_ne_nil {u : Update} (h : u ≠ []) : u.channels ≠ [] := by
  simpa [Update.channels] using h

/-- The integers in the lines of a frame with its update. -/
def playIntegers (f : Frame) (u : Update) : List Int :=
  f.duration :: (u.values ++ u.channels)

theorem frameLines_eq (width : LineWidth) (f : Frame) (u : Update) :
    frameLines width f u =
      (Numeral.checkShort (playIntegers f u)).map fun _ => playLines width f u := by
  by_cases hu : u = []
  · subst hu
    exact bind_ok_eq_map _ _
  · have hempty : u.isEmpty = false := by simpa using hu
    have hparts : playIntegers f u = [f.duration] ++ (u.values ++ u.channels) := rfl
    simp only [frameLines, playLines, hempty, Bool.false_eq_true, if_false,
      subroutineName_eq_map (channels_ne_nil hu), hparts, Numeral.checkShort_append]
    cases Numeral.checkShort [f.duration]
    · rfl
    · cases Numeral.checkShort u.values
      · rfl
      · cases Numeral.checkShort u.channels <;> rfl

theorem tokens_playLines (width : LineWidth) (f : Frame) (u : Update) :
    (playLines width f u).flatMap lineTokens = playTokens f u := by
  have hlead : ∀ t, lineTokens (Text.ofInt f.duration ++ [CodePoint.char ' '] ++ t) =
      [Text.ofInt f.duration] ++ lineTokens t := by
    intro t
    rw [List.append_assoc, List.singleton_append, lineTokens_token_space (isToken_ofInt _)]
    rfl
  have hclose : ∀ w : Text, IsToken w → lineTokens (w ++ (" # " ++ comment f.name)) = [w] :=
    fun w hw => lineTokens_token_space hw _
  have hdelay : IsToken "delay" := by decide
  by_cases hu : u = []
  · simp only [playLines, playTokens, hu, List.isEmpty_nil, if_true, List.flatMap_singleton,
      List.append_assoc indent, lineTokens_indent, List.append_assoc (_ ++ _), hlead,
      hclose "delay" hdelay]
    rfl
  · simp only [playLines, playTokens, List.isEmpty_iff, hu, if_false]
    rw [tokens_rowLines _ hlead, flatten_rows, hclose _ (isToken_setterName _)]
    simp

theorem no_feed_playLines (width : LineWidth) (f : Frame) (u : Update) :
    ∀ line ∈ playLines width f u, CodePoint.char '\n' ∉ line := by
  have hlead : CodePoint.char '\n' ∉ Text.ofInt f.duration ++ [CodePoint.char ' '] := by
    simp [(isToken_ofInt f.duration).no_feed]
  have hnote : CodePoint.char '\n' ∉ " # " ++ comment f.name := by
    simp [no_feed_comment]
  have hclose : CodePoint.char '\n' ∉ setterName u.channels ++ (" # " ++ comment f.name) := by
    rw [List.mem_append]
    exact not_or.mpr ⟨(isToken_setterName _).no_feed, hnote⟩
  by_cases hu : u = []
  · intro line hl
    simp only [playLines, hu, List.isEmpty_nil, if_true, List.mem_singleton] at hl
    rw [hl, List.mem_append, List.mem_append, List.mem_append]
    exact not_or.mpr ⟨not_or.mpr ⟨not_or.mpr ⟨no_feed_indent, hlead⟩, by decide⟩, hnote⟩
  · simp only [playLines, List.isEmpty_iff, hu, if_false]
    exact no_feed_rowLines hlead hclose _

/-! ### Subroutines -/

/-- The lines of the subroutine of a channel list that is not empty. -/
def setterLines (channels : List Int) : List Text :=
  ("sub " ++ setterName channels) ::
    channels.reverse.map (fun channel => indent ++ Text.ofInt channel ++ " " ++ setInstruction) ++
    [indent ++ "delay", indent ++ "return"]

def setterTokens (channels : List Int) : List Text :=
  channels.reverse.flatMap (fun channel => [Text.ofInt channel, setInstruction]) ++
    [("delay" : Text)]

def definition (name : Text) (body : List Text) : List Text :=
  ("sub" : Text) :: name :: body ++ [("return" : Text)]

theorem channelSubroutine_eq {channels : List Int} (h : channels ≠ [])
    (hshort : ∀ n ∈ channels, Numeral.isShort n = true) :
    channelSubroutine channels = .ok (setterLines channels) := by
  rw [channelSubroutine, subroutineName_eq h hshort]
  rfl

theorem lineTokens_header {name : Text} (h : IsToken name) :
    lineTokens ("sub " ++ name) = [("sub" : Text), name] := by
  have hsub : IsToken "sub" := by decide
  have hw := lineTokens_token_space hsub name
  rw [lineTokens_token h] at hw
  simpa using hw

theorem lineTokens_setter (channel : Int) :
    lineTokens (indent ++ Text.ofInt channel ++ " " ++ setInstruction) =
      [Text.ofInt channel, setInstruction] := by
  have hset : IsToken setInstruction := by decide
  have hw := lineTokens_token_space (isToken_ofInt channel) setInstruction
  rw [lineTokens_token hset] at hw
  simpa [List.append_assoc] using hw

theorem tokens_setterLines (channels : List Int) :
    (setterLines channels).flatMap lineTokens =
      definition (setterName channels) (setterTokens channels) := by
  simp only [setterLines, List.cons_append, List.flatMap_cons, List.flatMap_append,
    lineTokens_header (isToken_setterName channels), List.flatMap_map, lineTokens_setter,
    lineTokens_delay, lineTokens_return, List.flatMap_nil]
  simp only [definition, setterTokens, List.append_assoc, List.cons_append, List.nil_append]

theorem no_feed_header {name : Text} (h : IsToken name) : CodePoint.char '\n' ∉ "sub " ++ name := by
  simp [h.no_feed]

theorem no_feed_setterLines (channels : List Int) :
    ∀ line ∈ setterLines channels, CodePoint.char '\n' ∉ line := by
  intro line hl
  simp only [setterLines, List.cons_append, List.mem_cons, List.mem_append, List.mem_map,
    List.not_mem_nil, or_false] at hl
  rcases hl with rfl | ⟨channel, _, rfl⟩ | rfl | rfl
  · exact no_feed_header (isToken_setterName channels)
  · simp [no_feed_indent, (isToken_ofInt channel).no_feed, setInstruction]
  · decide
  · decide

end Script

end ServoScript
