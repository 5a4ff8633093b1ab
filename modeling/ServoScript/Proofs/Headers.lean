import ServoScript.Proofs.Reader

/-!
# The subroutines that a program defines

A program defines one subroutine for each sequence, under the identifier of its name, and one for each
channel list. Identifiers and names of channel lists are made independently of each other. Two channel
lists never share a name, but the identifier of a sequence may be the name of a channel list; apart
from this, everything is defined once.
-/

namespace ServoScript.Script

/-- The name that a line starts the definition of. -/
def header? (line : Text) : Option Text :=
  match lineTokens line with
  | [word, name] => if word = "sub" then some name else none
  | _ => none

def headers (script : Text) : List Text :=
  (Text.split '\n' script).filterMap header?

@[simp] theorem header?_nil : header? [] = none := rfl

theorem header?_delay : header? (indent ++ "delay") = none := by decide

theorem header?_return : header? (indent ++ "return") = none := by decide

theorem headers_text {lines : List Text} (h : ∀ line ∈ lines, CodePoint.char '\n' ∉ line) :
    headers (text lines) = lines.filterMap header? := by
  rw [headers, split_text h, List.filterMap_append]
  simp

theorem header?_header {name : Text} (h : IsToken name) : header? ("sub " ++ name) = some name := by
  rw [header?, lineTokens_header h]
  exact if_pos rfl

/-- A line that does not have the word among its tokens is no header. -/
theorem header?_eq_none {line : Text} (h : ("sub" : Text) ∉ lineTokens line) :
    header? line = none := by
  rw [header?]
  split
  · rename_i word name hl
    rw [hl] at h
    exact if_neg (fun he : word = "sub" => h (List.mem_cons.mpr (Or.inl he.symm)))
  · rfl

variable (enabled : List Int) (width : LineWidth)

theorem headers_sequenceLines (frames : List Frame) :
    (sequenceLines enabled width frames).filterMap header? = [] := by
  have hsub : ("sub" : Text) ∉ sequenceTokens enabled frames :=
    not_mem_sequenceTokens enabled frames (by decide) (by decide) (by decide)
  rw [List.filterMap_eq_nil_iff]
  intro line hl
  apply header?_eq_none
  intro hm
  rw [← tokens_sequenceLines enabled width] at hsub
  exact hsub (List.mem_flatMap.mpr ⟨line, hl, hm⟩)

theorem headers_subroutineLines (s : Sequence) :
    (subroutineLines s.name (sequenceLines enabled width s.frames)).filterMap header? =
      [Identifier.ofName s.name] := by
  have htitle : header? (title s.name) = none := header?_eq_none (by simp [title])
  simp only [subroutineLines, List.filterMap_append, List.filterMap_cons, htitle,
    header?_header (isToken_ofName s.name), headers_sequenceLines, header?_return,
    List.filterMap_nil, List.append_nil]

theorem headers_setterLines (channels : List Int) :
    (setterLines channels).filterMap header? = [setterName channels] := by
  have hset : (channels.reverse.map
      fun channel => indent ++ Text.ofInt channel ++ " " ++ setInstruction).filterMap header? =
        [] := by
    rw [List.filterMap_eq_nil_iff]
    intro line hl
    obtain ⟨channel, _, rfl⟩ := List.mem_map.mp hl
    apply header?_eq_none
    rw [lineTokens_setter]
    intro hm
    rcases List.mem_cons.mp hm with he | hm
    · exact ofInt_ne (by decide) channel he
    · exact absurd hm (by decide)
  rw [setterLines, List.filterMap_append, List.filterMap_cons,
    header?_header (isToken_setterName channels), hset]
  simp only [List.filterMap_cons, header?_delay, header?_return, List.filterMap_nil,
    List.append_nil]

/-- The headers of a program: the identifiers of its sequences, then the names of its channel
lists. -/
theorem headers_program (sequences : List Sequence) :
    headers (text (assembledLines enabled width sequences)) =
      (sequences.map fun s => Identifier.ofName s.name) ++
        (setterLists enabled sequences).map setterName := by
  rw [headers_text (no_feed_assembledLines enabled width sequences), assembledLines,
    List.filterMap_append]
  simp only [List.filterMap_flatMap, headers_subroutineLines, List.filterMap_cons, header?_nil,
    headers_setterLines]
  simp only [← List.map_eq_flatMap]

/-- The identifier of a sequence is the name of a channel list that some frame needs. -/
def Clash (sequences : List Sequence) : Prop :=
  ∃ s ∈ sequences, ∃ t ∈ sequences, ∃ u ∈ Update.ofFrames enabled t.frames,
    subroutineName u.channels = .ok (Identifier.ofName s.name)

theorem clash_iff {sequences : List Sequence} (h : ∀ s ∈ sequences, s.Printable enabled) :
    Clash enabled sequences ↔ ∃ s ∈ sequences, ∃ channels ∈ setterLists enabled sequences,
      setterName channels = Identifier.ofName s.name := by
  constructor
  · rintro ⟨s, hs, t, ht, u, hu, he⟩
    have hne : u ≠ [] := by
      rintro rfl
      cases he
    have hm : u.channels ∈ setterLists enabled sequences :=
      (mem_setterLists enabled).mpr ⟨t, ht, (mem_neededLists enabled).mpr ⟨u, hu, hne, rfl⟩⟩
    rw [subroutineName_eq (channels_ne_nil hne) (short_of_mem_setterLists h hm)] at he
    exact ⟨s, hs, u.channels, hm, Except.ok.inj he⟩
  · rintro ⟨s, hs, channels, hc, he⟩
    obtain ⟨t, ht, hneed⟩ := (mem_setterLists enabled).mp hc
    obtain ⟨u, hu, hne, rfl⟩ := (mem_neededLists enabled).mp hneed
    refine ⟨s, hs, t, ht, u, hu, ?_⟩
    rw [subroutineName_eq (channels_ne_nil hne) (short_of_mem_setterLists h hc), he]

theorem nodup_headers_iff {sequences : List Sequence} (h : ∀ s ∈ sequences, s.Printable enabled)
    (hid : (sequences.map fun s => Identifier.ofName s.name).Nodup) :
    (headers (text (assembledLines enabled width sequences))).Nodup ↔
      ¬ Clash enabled sequences := by
  rw [headers_program, clash_iff enabled h, List.nodup_append]
  constructor
  · rintro ⟨_, _, hdis⟩ ⟨s, hs, channels, hc, he⟩
    exact hdis _ (List.mem_map_of_mem hs) _ (List.mem_map_of_mem hc) he.symm
  · intro hno
    refine ⟨hid, nodup_setterNames enabled sequences, ?_⟩
    intro a ha b hb he
    obtain ⟨s, hs, rfl⟩ := List.mem_map.mp ha
    obtain ⟨channels, hc, rfl⟩ := List.mem_map.mp hb
    exact hno ⟨s, hs, channels, hc, he.symm⟩

/-- A name has exactly one header in a script, and what is defined there is the subroutine of these
channels. -/
def DefinedOnce (script name : Text) (channels : List Int) : Prop :=
  (headers script).count name = 1 ∧
    ∃ before block after, channelSubroutine channels = .ok block ∧
      block.head? = some ("sub " ++ name) ∧ script = text (before ++ block ++ after)

theorem definedOnce_of_mem {sequences : List Sequence} (hprint : ∀ s ∈ sequences, s.Printable enabled)
    (hn : (headers (text (assembledLines enabled width sequences))).Nodup) {channels : List Int}
    (h : channels ∈ setterLists enabled sequences) :
    DefinedOnce (text (assembledLines enabled width sequences)) (setterName channels) channels := by
  refine ⟨List.count_eq_one_of_mem hn ?_, ?_⟩
  · rw [headers_program]
    exact List.mem_append.mpr (Or.inr (List.mem_map_of_mem h))
  · obtain ⟨front, back, hsplit⟩ := List.append_of_mem h
    refine ⟨(sequences.flatMap fun s =>
        subroutineLines s.name (sequenceLines enabled width s.frames)) ++
          front.flatMap (fun l => [] :: setterLines l) ++ [[]], setterLines channels,
        back.flatMap fun l => [] :: setterLines l,
        channelSubroutine_eq (ne_nil_of_mem_setterLists enabled h) (short_of_mem_setterLists hprint h),
        rfl, ?_⟩
    rw [assembledLines, hsplit]
    simp only [List.flatMap_append, List.flatMap_cons, List.append_assoc, List.cons_append,
      List.nil_append]

/-- The calls on the lines of a frame: at most one, to the subroutine of its channels. -/
theorem call_mem_tokens {f : Frame} {u : Update} {name : Text}
    (h : Instruction.call name ∈ (tokens (text (playLines width f u))).map Instruction.ofToken) :
    u ≠ [] ∧ name = setterName u.channels := by
  rw [tokens_text (no_feed_playLines width f u), tokens_playLines, ofToken_playTokens, playCode] at h
  by_cases hu : u = []
  · simp [hu] at h
  · exact ⟨hu, by simpa [hu] using h⟩

/-- Every subroutine of a program is defined once: no name is in two headers, and every name that
is called on the lines of a frame is defined as the subroutine of the channels that the frame needs. -/
structure Unambiguous (sequences : List Sequence) (script : Text) : Prop where
  headers : (headers script).Nodup
  calls : ∀ s ∈ sequences, ∀ p ∈ s.frames.zip (Update.ofFrames enabled s.frames),
    ∃ lines, frameLines width p.1 p.2 = .ok lines ∧
      ∀ name, Instruction.call name ∈ (tokens (text lines)).map Instruction.ofToken →
        DefinedOnce script name p.2.channels

/-- With different identifiers, a program defines every subroutine once exactly if none of these is
the name of a channel list that a frame needs. There is no program if an integer in it has too many
digits. -/
theorem program_unambiguous_iff (sequences : List Sequence)
    (hid : (sequences.map fun s => Identifier.ofName s.name).Nodup) :
    ((∀ s ∈ sequences, s.Printable enabled) → ∃ script, program enabled width sequences = .ok script ∧
      (Unambiguous enabled width sequences script ↔ ¬ Clash enabled sequences)) ∧
    ((¬ ∀ s ∈ sequences, s.Printable enabled) →
      program enabled width sequences = .error .tooLongToWrite) := by
  refine ⟨fun hprint => ⟨_, program_eq width hprint, ?_, ?_⟩, program_eq_error width⟩
  · intro h
    exact (nodup_headers_iff enabled width hprint hid).mp h.headers
  · intro hno
    have hn := (nodup_headers_iff enabled width hprint hid).mpr hno
    refine ⟨hn, ?_⟩
    intro s hs p hp
    have hshort := (integers_iff enabled s.frames).mpr (hprint s hs) p hp
    refine ⟨playLines width p.1 p.2, ?_, ?_⟩
    · rw [frameLines_eq, Numeral.checkShort_eq_ok hshort]
      rfl
    · intro name hcall
      obtain ⟨hne, rfl⟩ := call_mem_tokens width hcall
      have hu : p.2 ∈ Update.ofFrames enabled s.frames := (List.of_mem_zip hp).2
      exact definedOnce_of_mem enabled width hprint hn ((mem_setterLists enabled).mpr
        ⟨s, hs, (mem_neededLists enabled).mpr ⟨p.2, hu, hne, rfl⟩⟩)

/-- Two sequences that need the same channel lists, one of them named almost like one. -/
theorem program_unambiguous_wave :
    ∃ script, program [0, 1] (some 1)
        [⟨"Wave", [⟨"A", 500, [1000, 2000]⟩, ⟨"B", 300, [1000, 2500]⟩]⟩,
          ⟨"frame 0", [⟨"C", 100, [0, 0]⟩, ⟨"D", 100, [0, 5]⟩]⟩] = .ok script ∧
      Unambiguous [0, 1] (some 1)
        [⟨"Wave", [⟨"A", 500, [1000, 2000]⟩, ⟨"B", 300, [1000, 2500]⟩]⟩,
          ⟨"frame 0", [⟨"C", 100, [0, 0]⟩, ⟨"D", 100, [0, 5]⟩]⟩] script := by
  have hprint : ∀ s ∈ ([⟨"Wave", [⟨"A", 500, [1000, 2000]⟩, ⟨"B", 300, [1000, 2500]⟩]⟩,
      ⟨"frame 0", [⟨"C", 100, [0, 0]⟩, ⟨"D", 100, [0, 5]⟩]⟩] : List Sequence), s.Printable [0, 1] := by
    decide +kernel
  obtain ⟨script, hs, h⟩ := (program_unambiguous_iff [0, 1] (some 1) _ (by decide)).1 hprint
  refine ⟨script, hs, h.mpr ?_⟩
  rw [clash_iff [0, 1] hprint]
  decide +kernel

/-- A single sequence is enough for a clash: it is called like the subroutine that it calls. -/
theorem program_ambiguous_frame :
    ([⟨"frame 0", [⟨"A", 500, [1000]⟩]⟩].map fun s : Sequence => Identifier.ofName s.name).Nodup ∧
      ∃ script, program [0] none [⟨"frame 0", [⟨"A", 500, [1000]⟩]⟩] = .ok script ∧
        ¬ (headers script).Nodup := by
  refine ⟨by decide, _, program_eq none (by decide +kernel), ?_⟩
  rw [headers_program]
  decide +kernel

end ServoScript.Script
