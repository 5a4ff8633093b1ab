import Mathlib.Data.List.Basic
import ServoScript.Clipboard
import ServoScript.Proofs.Word

/-!
# Frames come back from the clipboard

The line of a frame is cut into the fields that it was made of, since no field has a tab in it, and
the text of all frames into their lines, since no line has a feed in it. Reading the text of frames
therefore gives the frames again, with names on one line that are cut to their greatest length, and
with as many targets as the limit allows.
-/

namespace ServoScript.Clipboard

/-- What the clipboard keeps of a frame. -/
def carried (limit : Option Int) (f : Frame) : Frame where
  name := (f.name.map fun (c : CodePoint) =>
    if c = '\t' ∨ c = '\r' ∨ c = '\n' then CodePoint.char ' ' else c).take 80
  duration := f.duration
  targets := match limit with
    | none => f.targets
    | some n => f.targets.take n.toNat

theorem cleanName_eq_map (name : Text) :
    cleanName name = name.map fun (c : CodePoint) =>
      if c = '\t' ∨ c = '\r' ∨ c = '\n' then CodePoint.char ' ' else c := by
  simp only [cleanName, Text.replace, List.map_map]
  apply List.map_congr_left
  intro c _
  by_cases ht : c = '\t'
  · subst ht
    decide
  · by_cases hr : c = '\r'
    · subst hr
      decide
    · simp [ht, hr]

theorem cleanName_eq_self {name : Text} (h : ∀ c ∈ name, c ≠ '\t' ∧ c ≠ '\r' ∧ c ≠ '\n') :
    cleanName name = name := by
  rw [cleanName_eq_map]
  apply map_eq_self
  intro c hc
  obtain ⟨ht, hr, hn⟩ := h c hc
  simp [ht, hr, hn]

theorem not_mem_cleanName {c : CodePoint} (h : c = '\t' ∨ c = '\r' ∨ c = '\n') (name : Text) :
    c ∉ cleanName name := by
  rw [cleanName_eq_map]
  intro hc
  obtain ⟨d, _, hd⟩ := List.mem_map.mp hc
  by_cases hs : d = '\t' ∨ d = '\r' ∨ d = '\n'
  · rw [if_pos hs] at hd
    rcases h with rfl | rfl | rfl <;> exact absurd hd (by decide)
  · rw [if_neg hs] at hd
    exact hs (hd ▸ h)

theorem not_mem_ofInt {c : CodePoint} (h : c = '\t' ∨ c = '\r' ∨ c = '\n') (n : Int) :
    c ∉ Text.ofInt n := by
  intro hc
  rcases h with rfl | rfl | rfl <;> rcases Text.mem_ofInt hc with hd | hd <;>
    exact absurd hd (by decide)

/-! ### One line -/

def fields (f : Frame) : List Text :=
  cleanName f.name :: Text.ofInt f.duration :: targetFields f.targets

theorem not_mem_fields {c : CodePoint} (h : c = '\t' ∨ c = '\r' ∨ c = '\n') (f : Frame) :
    ∀ field ∈ fields f, c ∉ field := by
  intro field hf
  rcases List.mem_cons.mp hf with rfl | hf
  · exact not_mem_cleanName h f.name
  rcases List.mem_cons.mp hf with rfl | hf
  · exact not_mem_ofInt h f.duration
  · rw [targetFields] at hf
    split at hf
    · rw [List.mem_singleton.mp hf]
      exact List.not_mem_nil
    · obtain ⟨v, _, rfl⟩ := List.mem_map.mp hf
      exact not_mem_ofInt h v

theorem split_encodeLine (f : Frame) : Text.split '\t' (encodeLine f) = fields f := by
  rw [Text.split_eq_splitOn]
  exact List.splitOn_intercalate (CodePoint.char '\t') (not_mem_fields (Or.inl rfl) f) (List.cons_ne_nil _ _)

theorem not_mem_encodeLine {c : CodePoint} (h : c = '\r' ∨ c = '\n') (f : Frame) :
    c ∉ encodeLine f := by
  intro hc
  rcases Text.mem_intercalate hc with rfl | ⟨field, hf, hcf⟩
  · rcases h with h | h <;> exact absurd h (by decide)
  · exact not_mem_fields (Or.inr h) f field hf hcf

theorem dropFinal_encodeLine (f : Frame) : Text.dropFinal '\r' (encodeLine f) = encodeLine f := by
  rw [Text.dropFinal, if_neg]
  intro h
  exact not_mem_encodeLine (Or.inl rfl) f (List.mem_of_getLast? h)

theorem targetFields_ne_nil (targets : List Int) : targetFields targets ≠ [] := by
  cases targets <;> simp [targetFields]

/-- The single empty field is taken for no targets, and is written for nothing else. -/
theorem targetsOf_targetFields {targets : List Int} (h : ∀ v ∈ targets, 0 ≤ v ∧ v ≤ 65535)
    (limit : Option Int) :
    targetsOf limit (targetFields targets) =
      match limit with
      | none => targets
      | some n => targets.take n.toNat := by
  have hfields : (if targetFields targets = [[]] then [] else targetFields targets) =
      targets.map Text.ofInt := by
    cases targets with
    | nil => rfl
    | cons v targets =>
      have hne : (v :: targets).map Text.ofInt ≠ [[]] := by
        simp [Text.ofInt_ne_nil v]
      simp only [targetFields, List.isEmpty_cons, Bool.false_eq_true, if_false, if_neg hne]
  simp only [targetsOf, hfields]
  cases limit with
  | none => exact Word.map_parseD_ofInt h
  | some n =>
    simp only [← List.map_take]
    exact Word.map_parseD_ofInt (fun v hv => h v (List.mem_of_mem_take hv))

theorem decodeLine_encodeLine {f : Frame} (h : f.InRange) (limit : Option Int) :
    decodeLine limit (encodeLine f) = some (carried limit f) := by
  rw [decodeLine, split_encodeLine, fields]
  cases ht : targetFields f.targets with
  | nil => exact absurd ht (targetFields_ne_nil f.targets)
  | cons target targets =>
    simp only [← ht, targetsOf_targetFields h.targets, Word.parseD_ofInt h.duration, carried,
      cleanName_eq_map]
    rfl

/-! ### Lines from outside -/

variable {limit : Option Int} {line : Text} {f : Frame}

theorem decodeLine_eq_some (h : decodeLine limit line = some f) :
    ∃ name duration target targets, Text.split '\t' line = name :: duration :: target :: targets ∧
      f = ⟨name.take Frame.maxNameLength, Word.parseD duration defaultDuration,
        targetsOf limit (target :: targets)⟩ := by
  unfold decodeLine at h
  split at h
  · next name duration target targets hsplit =>
    exact ⟨name, duration, target, targets, hsplit, (Option.some.inj h).symm⟩
  · cases h

theorem length_targetsOf_le (n : Int) (fields : List Text) :
    (targetsOf (some n) fields).length ≤ n.toNat := by
  simp only [targetsOf, List.length_map, List.length_take]
  omega

theorem decodeLine_inRange (h : decodeLine limit line = some f) : f.InRange := by
  obtain ⟨name, duration, target, targets, _, rfl⟩ := decodeLine_eq_some h
  refine ⟨?_, ?_⟩
  · have hle := Word.parseD_le duration (show defaultDuration ≤ 65535 by decide)
    dsimp only
    omega
  · intro v hv
    obtain ⟨field, _, rfl⟩ := List.mem_map.mp hv
    have hle := Word.parseD_le field (Nat.zero_le 65535)
    omega

/-- Whatever a text holds, the frames that are read from it are of words and keep to the limit. -/
theorem decode_fits {limit : Int} {t : Text} {f : Frame} (h : f ∈ decode (some limit) t) :
    f.Fits limit.toNat := by
  obtain ⟨line, _, hf⟩ := List.mem_filterMap.mp h
  obtain ⟨_, _, target, targets, _, rfl⟩ := decodeLine_eq_some hf
  exact ⟨decodeLine_inRange hf, length_targetsOf_le limit (target :: targets)⟩

/-! ### All lines -/

theorem encode_eq_text (frames : List Frame) : encode frames = Script.text (frames.map encodeLine) := by
  rw [encode, Script.text, List.flatMap_map]

theorem split_encode (frames : List Frame) :
    Text.split '\n' (encode frames) = frames.map encodeLine ++ [[]] := by
  rw [encode_eq_text]
  apply Script.split_text
  intro line hl
  obtain ⟨f, _, rfl⟩ := List.mem_map.mp hl
  exact not_mem_encodeLine (Or.inr rfl) f

theorem decode_encode_eq_map {frames : List Frame} (h : ∀ f ∈ frames, f.InRange)
    (limit : Option Int) : decode limit (encode frames) = frames.map (carried limit) := by
  have hlast : decodeLine limit (Text.dropFinal '\r' []) = none := rfl
  rw [decode, split_encode, List.filterMap_append, List.filterMap_map]
  simp only [List.filterMap_cons, hlast, List.filterMap_nil, List.append_nil]
  apply List.filterMap_eq_map_iff_forall_eq_some.mpr
  intro f hf
  rw [Function.comp_apply, dropFinal_encodeLine, decodeLine_encodeLine (h f hf)]

/-- A frame whose name is short and on one line goes through the clipboard unchanged, unless a limit
cuts its targets. -/
theorem carried_none_eq_self {f : Frame} (hlen : f.name.length ≤ 80)
    (h : ∀ c ∈ f.name, c ≠ '\t' ∧ c ≠ '\r' ∧ c ≠ '\n') : carried none f = f := by
  have hname : (carried none f).name = f.name := by
    rw [carried, ← cleanName_eq_map, cleanName_eq_self h, List.take_of_length_le hlen]
  cases f
  simp only [carried] at hname ⊢
  rw [hname]

/-- Frames of words are read back from their text one by one and in order, with their durations, with
the targets up to the limit, and with names in which a blank stands for each tab and line end and
which are cut to 80 characters. Without a limit, frames with short names on one line come back as they
were. -/
theorem decode_encode_frames {frames : List Frame} (h : ∀ f ∈ frames, f.InRange)
    (limit : Option Int) :
    decode limit (encode frames) = frames.map (carried limit) ∧
      ((∀ f ∈ frames, f.name.length ≤ 80 ∧ ∀ c ∈ f.name, c ≠ '\t' ∧ c ≠ '\r' ∧ c ≠ '\n') →
        decode none (encode frames) = frames) := by
  refine ⟨decode_encode_eq_map h limit, ?_⟩
  intro hnames
  rw [decode_encode_eq_map h none]
  apply map_eq_self
  intro f hf
  exact carried_none_eq_self (hnames f hf).1 (hnames f hf).2

/-- A name with a tab and a name of a single return, with two targets and with none, and a limit that
takes the second target away. -/
theorem decode_encode_frames_pair :
    decode (some 1) (encode [⟨"a\tb", 500, [7, 65535]⟩, ⟨"\r", 0, []⟩]) =
      [⟨"a b", 500, [7]⟩, ⟨" ", 0, []⟩] := by
  have h : ∀ f ∈ ([⟨"a\tb", 500, [7, 65535]⟩, ⟨"\r", 0, []⟩] : List Frame), f.InRange := by
    intro f hf
    simp only [List.mem_cons, List.not_mem_nil, or_false] at hf
    rcases hf with rfl | rfl
    · exact ⟨by decide, by decide⟩
    · exact ⟨by decide, by decide⟩
  exact (decode_encode_frames h (some 1)).1.trans (by decide)

end ServoScript.Clipboard
