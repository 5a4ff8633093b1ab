import Mathlib.Data.List.Nodup
import ServoScript.Proofs.Basic
import ServoScript.Proofs.Line
import ServoScript.Proofs.Registry

/-!
# What scripts consist of

A script is written for every sequence, list of channels and width, unless an integer that it shows
has too many digits: the durations, the enabled channels and the targets of these. A subroutine is only
ever needed for a channel list that is not empty. The statements give the lines of a looped script and
of a program as plain lists, and their tokens as blocks.
-/

namespace ServoScript

theorem Json.toInts_ofInts (ns : List Int) : (ofInts ns).toInts = .ok ns := by
  have hread : (ns.map int).mapM toInt = .ok ns := by
    rw [List.mapM_map]
    exact (mapM_ok fun _ _ => rfl).trans (congrArg _ (List.map_id ns))
  exact hread

namespace Update

theorem length_along (enabled : List Int) (previous : Option (List Int)) (l : List (List Int)) :
    (along enabled previous l).length = l.length := by
  induction l generalizing previous with
  | nil => rfl
  | cons targets l ih => rw [along, List.length_cons, List.length_cons, ih]

theorem length_ofFrames (enabled : List Int) (frames : List Frame) :
    (ofFrames enabled frames).length = frames.length := by
  rw [ofFrames, length_along, List.length_map]

theorem channels_between (enabled : List Int) (previous : Option (List Int)) (targets : List Int) :
    (between enabled previous targets).channels = enabled.filter (isNeeded previous targets) := by
  simp [channels, between, Function.comp_def]

theorem channels_between_sublist (enabled : List Int) (previous : Option (List Int))
    (targets : List Int) : (between enabled previous targets).channels.Sublist enabled := by
  rw [channels_between]
  exact List.filter_sublist

theorem channels_sublist_of_mem_along {enabled : List Int} {previous : Option (List Int)}
    {l : List (List Int)} {u : Update} (h : u ∈ along enabled previous l) :
    u.channels.Sublist enabled := by
  induction l generalizing previous with
  | nil => cases h
  | cons targets l ih =>
    rcases List.mem_cons.mp h with rfl | h
    · exact channels_between_sublist enabled previous targets
    · exact ih h

end Update

/-- All integers that the script of a frame may show can be written. -/
structure Frame.Printable (enabled : List Int) (f : Frame) : Prop where
  duration : Numeral.isShort f.duration = true
  channels : ∀ channel ∈ enabled, Numeral.isShort channel = true
  targets : ∀ channel ∈ enabled, Numeral.isShort (f.target channel) = true

instance (enabled : List Int) (f : Frame) : Decidable (f.Printable enabled) :=
  decidable_of_iff (Numeral.isShort f.duration = true ∧
      (∀ channel ∈ enabled, Numeral.isShort channel = true) ∧
      ∀ channel ∈ enabled, Numeral.isShort (f.target channel) = true)
    ⟨fun h => ⟨h.1, h.2.1, h.2.2⟩, fun h => ⟨h.duration, h.channels, h.targets⟩⟩

def Sequence.Printable (enabled : List Int) (s : Sequence) : Prop :=
  ∀ f ∈ s.frames, f.Printable enabled

instance (enabled : List Int) (s : Sequence) : Decidable (s.Printable enabled) :=
  inferInstanceAs (Decidable (∀ f ∈ s.frames, _))

namespace Script

/-! ### Registering while writing -/

def channelLists (updates : List Update) : List (List Int) :=
  (updates.filter (!·.isEmpty)).map Update.channels

theorem channelLists_cons (u : Update) (updates : List Update) :
    channelLists (u :: updates) = channelLists [u] ++ channelLists updates := by
  cases u <;> rfl

theorem registerUpdate_snd (r : Registry) (u : Update) :
    (registerUpdate r u).2 = r.addAll (channelLists [u]) := by
  cases u <;> rfl

theorem addAll_registerUpdate (r : Registry) (u : Update) (updates : List Update) :
    (registerUpdate r u).2.addAll (channelLists updates) = r.addAll (channelLists (u :: updates)) := by
  rw [registerUpdate_snd, channelLists_cons u updates, Registry.addAll_append]

theorem registerUpdate_of_short {u : Update} (h : ∀ n ∈ u.channels, Numeral.isShort n = true)
    (r : Registry) : ∃ isNew, (registerUpdate r u).1 = .ok isNew := by
  cases u with
  | nil => exact ⟨false, rfl⟩
  | cons p u =>
    have hregister := Registry.register_of_takes (r := r) (Or.inr h)
    exact ⟨_, congrArg Prod.fst hregister⟩

theorem registerUpdate_of_error {r : Registry} {u : Update} {fault : Fault}
    (h : (registerUpdate r u).1 = .error fault) : fault = .tooLongToWrite := by
  cases u with
  | nil => cases h
  | cons p u =>
    change (r.register (Update.channels (p :: u))).1 = _ at h
    by_cases htakes : r.Takes (Update.channels (p :: u))
    · rw [Registry.register_of_takes htakes] at h
      cases h
    · rw [Registry.register_of_not_takes htakes] at h
      exact (Except.error.inj h).symm

/-- Whatever comes of it, writing frames registers the channel lists of the first ones. -/
theorem writeFrames_snd {α : Type} (write : α → Update → Except Fault (List Text)) (r : Registry)
    (items : List (α × Update)) :
    ∃ k, (writeFrames write r items).2 = r.addAll (channelLists ((items.take k).map Prod.snd)) := by
  induction items generalizing r with
  | nil => exact ⟨0, rfl⟩
  | cons p items ih =>
    obtain ⟨f, u⟩ := p
    rw [writeFrames]
    cases hline : (registerUpdate r u).1.bind fun _ => write f u with
    | error fault =>
      refine ⟨1, ?_⟩
      simp only [hline]
      exact registerUpdate_snd r u
    | ok lines =>
      obtain ⟨k, hk⟩ := ih (registerUpdate r u).2
      refine ⟨k + 1, ?_⟩
      simp only [hline]
      rw [hk, addAll_registerUpdate]
      rfl

section

variable (width : LineWidth) {f : Frame} {u : Update} {items : List (Frame × Update)}

theorem bind_frameLines_of_short (h : ∀ n ∈ playIntegers f u, Numeral.isShort n = true)
    (r : Registry) :
    ((registerUpdate r u).1.bind fun _ => frameLines width f u) = .ok (playLines width f u) := by
  have hchannels : ∀ n ∈ u.channels, Numeral.isShort n = true :=
    fun n hn => h n (List.mem_cons_of_mem _ (List.mem_append_right _ hn))
  obtain ⟨isNew, hnew⟩ := registerUpdate_of_short hchannels r
  rw [hnew, Except.bind, frameLines_eq, Numeral.checkShort_eq_ok h]
  rfl

/-- The channels are among the integers of a frame, so it does not matter which of the two steps finds
one that is too long. -/
theorem bind_frameLines_of_long (h : ¬ ∀ n ∈ playIntegers f u, Numeral.isShort n = true)
    (r : Registry) :
    ((registerUpdate r u).1.bind fun _ => frameLines width f u) = .error .tooLongToWrite := by
  cases hnew : (registerUpdate r u).1 with
  | error fault =>
    rw [registerUpdate_of_error hnew]
    rfl
  | ok isNew =>
    rw [Except.bind, frameLines_eq, Numeral.checkShort_eq_error h]
    rfl

theorem writeFrames_of_short
    (h : ∀ p ∈ items, ∀ n ∈ playIntegers p.1 p.2, Numeral.isShort n = true) (r : Registry) :
    writeFrames (frameLines width) r items =
      (.ok (items.flatMap fun p => playLines width p.1 p.2),
        r.addAll (channelLists (items.map Prod.snd))) := by
  induction items generalizing r with
  | nil => rfl
  | cons p items ih =>
    obtain ⟨f, u⟩ := p
    obtain ⟨hfirst, hrest⟩ := List.forall_mem_cons.mp h
    rw [writeFrames]
    simp only [bind_frameLines_of_short width hfirst r, ih hrest, addAll_registerUpdate]
    rfl

theorem writeFrames_of_long
    (h : ¬ ∀ p ∈ items, ∀ n ∈ playIntegers p.1 p.2, Numeral.isShort n = true) (r : Registry) :
    (writeFrames (frameLines width) r items).1 = .error .tooLongToWrite := by
  induction items generalizing r with
  | nil => exact absurd (by simp) h
  | cons p items ih =>
    obtain ⟨f, u⟩ := p
    rw [writeFrames]
    by_cases hfirst : ∀ n ∈ playIntegers f u, Numeral.isShort n = true
    · -- The first frame is written, so the integer stands in a later one.
      have hrest := ih (fun hrest => h (List.forall_mem_cons.mpr ⟨hfirst, hrest⟩)) (registerUpdate r u).2
      simp only [bind_frameLines_of_short width hfirst r, hrest]
      rfl
    · simp only [bind_frameLines_of_long width hfirst r]

end

variable (enabled : List Int) (width : LineWidth)

/-! ### Frames -/

/-- The channel lists that frames need a subroutine for, in order of use. -/
def neededLists (frames : List Frame) : List (List Int) :=
  channelLists (Update.ofFrames enabled frames)

def sequenceLines (frames : List Frame) : List Text :=
  (frames.zip (Update.ofFrames enabled frames)).flatMap fun p => playLines width p.1 p.2

def sequenceTokens (frames : List Frame) : List Text :=
  (frames.zip (Update.ofFrames enabled frames)).flatMap fun p => playTokens p.1 p.2

theorem flatMap_zip_congr {R : Frame → Frame → Prop} {make : Frame → Update → List Text}
    {frames frames' : List Frame} (h : List.Forall₂ R frames frames')
    (hmake : ∀ f g u, R f g → make f u = make g u) (updates : List Update) :
    (frames.zip updates).flatMap (fun p => make p.1 p.2) =
      (frames'.zip updates).flatMap (fun p => make p.1 p.2) := by
  induction h generalizing updates with
  | nil => rfl
  | cons hfirst _ ih =>
    cases updates with
    | nil => rfl
    | cons u updates =>
      simp only [List.zip_cons_cons, List.flatMap_cons, hmake _ _ u hfirst, ih updates]

theorem mem_neededLists {frames : List Frame} {channels : List Int} :
    channels ∈ neededLists enabled frames ↔
      ∃ u ∈ Update.ofFrames enabled frames, u ≠ [] ∧ u.channels = channels := by
  simp [neededLists, channelLists, and_assoc]

theorem ne_nil_of_mem_neededLists {frames : List Frame} {channels : List Int}
    (h : channels ∈ neededLists enabled frames) : channels ≠ [] := by
  obtain ⟨u, _, hne, rfl⟩ := (mem_neededLists enabled).mp h
  exact channels_ne_nil hne

theorem integers_between_iff {previous : Option (List Int)} (f : Frame)
    (hprevious : ∀ before ∈ previous, ∀ channel ∈ enabled,
      Numeral.isShort channel = true ∧ Numeral.isShort (targetAt before channel) = true) :
    (∀ n ∈ playIntegers f (Update.between enabled previous f.targets), Numeral.isShort n = true) ↔
      f.Printable enabled := by
  constructor
  · intro h
    rw [playIntegers, List.forall_mem_cons, List.forall_mem_append] at h
    obtain ⟨hduration, hvalues, hchannels⟩ := h
    -- A channel that the update leaves out has the target of the frame before.
    have hentry : ∀ channel ∈ enabled,
        Numeral.isShort channel = true ∧ Numeral.isShort (targetAt f.targets channel) = true := by
      intro channel hc
      by_cases hneeded : Update.isNeeded previous f.targets channel = true
      · have hmem : (channel, targetAt f.targets channel) ∈ Update.between enabled previous f.targets :=
          List.mem_map.mpr ⟨channel, List.mem_filter.mpr ⟨hc, hneeded⟩, rfl⟩
        exact ⟨hchannels _ (List.mem_map_of_mem hmem), hvalues _ (List.mem_map_of_mem hmem)⟩
      · cases previous with
        | none => exact absurd rfl hneeded
        | some before =>
          have hsame : targetAt f.targets channel = targetAt before channel := by
            simpa [Update.isNeeded] using hneeded
          rw [hsame]
          exact hprevious before rfl channel hc
    exact ⟨hduration, fun channel hc => (hentry channel hc).1, fun channel hc => (hentry channel hc).2⟩
  · intro h
    have hmem : ∀ p ∈ Update.between enabled previous f.targets,
        Numeral.isShort p.1 = true ∧ Numeral.isShort p.2 = true := by
      intro p hp
      obtain ⟨channel, hc, rfl⟩ := List.mem_map.mp hp
      have hc := (List.mem_filter.mp hc).1
      exact ⟨h.channels channel hc, h.targets channel hc⟩
    rw [playIntegers, List.forall_mem_cons, List.forall_mem_append, Update.values, Update.channels,
      List.forall_mem_map, List.forall_mem_map]
    exact ⟨h.duration, fun p hp => (hmem p hp).2, fun p hp => (hmem p hp).1⟩

/-- Every target of an enabled channel is shown by the frame that brings it about. So the integers of
the script are short exactly if those of all frames are. -/
theorem integers_along_iff {previous : Option (List Int)} (frames : List Frame)
    (hprevious : ∀ before ∈ previous, ∀ channel ∈ enabled,
      Numeral.isShort channel = true ∧ Numeral.isShort (targetAt before channel) = true) :
    (∀ p ∈ frames.zip (Update.along enabled previous (frames.map Frame.targets)),
        ∀ n ∈ playIntegers p.1 p.2, Numeral.isShort n = true) ↔
      ∀ f ∈ frames, f.Printable enabled := by
  induction frames generalizing previous with
  | nil => simp
  | cons f frames ih =>
    rw [List.map_cons, Update.along, List.zip_cons_cons, List.forall_mem_cons, List.forall_mem_cons,
      integers_between_iff enabled f hprevious]
    refine and_congr_right fun hfirst => ih ?_
    rintro before ⟨⟩ channel hc
    exact ⟨hfirst.channels channel hc, hfirst.targets channel hc⟩

theorem integers_iff (frames : List Frame) :
    (∀ p ∈ frames.zip (Update.ofFrames enabled frames),
        ∀ n ∈ playIntegers p.1 p.2, Numeral.isShort n = true) ↔
      ∀ f ∈ frames, f.Printable enabled :=
  integers_along_iff enabled frames (by simp)

section

variable {enabled}

/-- Neither the lines of frames nor whether there are any depends on the registry. -/
theorem framesLines_eq {frames : List Frame} (h : ∀ f ∈ frames, f.Printable enabled) (r : Registry) :
    framesLines enabled width r frames =
      (.ok (sequenceLines enabled width frames), r.addAll (neededLists enabled frames)) := by
  have hsnd : (frames.zip (Update.ofFrames enabled frames)).map Prod.snd =
      Update.ofFrames enabled frames :=
    List.map_snd_zip (Nat.le_of_eq (Update.length_ofFrames enabled frames))
  rw [framesLines, writeFrames_of_short width ((integers_iff enabled frames).mpr h), hsnd]
  rfl

theorem framesLines_eq_error {frames : List Frame} (h : ¬ ∀ f ∈ frames, f.Printable enabled)
    (r : Registry) : (framesLines enabled width r frames).1 = .error .tooLongToWrite :=
  writeFrames_of_long width (fun hshort => h ((integers_iff enabled frames).mp hshort)) r

theorem sublist_of_mem_neededLists {frames : List Frame} {channels : List Int}
    (h : channels ∈ neededLists enabled frames) : channels.Sublist enabled := by
  obtain ⟨u, hu, _, rfl⟩ := (mem_neededLists enabled).mp h
  exact Update.channels_sublist_of_mem_along hu

theorem short_of_mem_neededLists {frames : List Frame} (h : ∀ f ∈ frames, f.Printable enabled)
    {channels : List Int} (hc : channels ∈ neededLists enabled frames) :
    ∀ n ∈ channels, Numeral.isShort n = true := by
  intro n hn
  cases frames with
  | nil => cases hc
  | cons f frames =>
    exact (h f List.mem_cons_self).channels n ((sublist_of_mem_neededLists hc).subset hn)

end

theorem tokens_sequenceLines (frames : List Frame) :
    (sequenceLines enabled width frames).flatMap lineTokens = sequenceTokens enabled frames := by
  rw [sequenceLines, sequenceTokens, List.flatMap_assoc]
  simp only [tokens_playLines]

theorem no_feed_sequenceLines (frames : List Frame) :
    ∀ line ∈ sequenceLines enabled width frames, CodePoint.char '\n' ∉ line := by
  intro line hl
  obtain ⟨p, _, hp⟩ := List.mem_flatMap.mp hl
  exact no_feed_playLines width p.1 p.2 line hp

theorem no_feed_title (name : Text) : CodePoint.char '\n' ∉ title name := by
  simp [title, no_feed_comment]

/-- The channel lists of the subroutines of several sequences, each once. -/
def setterLists (sequences : List Sequence) : List (List Int) :=
  (Registry.empty.addAll (sequences.flatMap fun s => neededLists enabled s.frames)).lists

theorem mem_setterLists {sequences : List Sequence} {channels : List Int} :
    channels ∈ setterLists enabled sequences ↔
      ∃ s ∈ sequences, channels ∈ neededLists enabled s.frames := by
  rw [setterLists, Registry.mem_addAll, List.mem_flatMap]
  exact or_iff_right List.not_mem_nil

theorem ne_nil_of_mem_setterLists {sequences : List Sequence} {channels : List Int}
    (h : channels ∈ setterLists enabled sequences) : channels ≠ [] := by
  obtain ⟨s, _, hm⟩ := (mem_setterLists enabled).mp h
  exact ne_nil_of_mem_neededLists enabled hm

theorem nodup_setterLists (sequences : List Sequence) : (setterLists enabled sequences).Nodup :=
  Registry.nodup_addAll List.nodup_nil _

/-- Different channel lists have different names. -/
theorem nodup_map_setterName {lists : List (List Int)} (h : lists.Nodup)
    (hne : ∀ channels ∈ lists, channels ≠ []) : (lists.map setterName).Nodup := by
  refine List.Nodup.map_on ?_ h
  intro a ha b hb heq
  exact setterName_injective (hne a ha) (hne b hb) heq

/-- No two of the subroutines of several sequences clash. -/
theorem nodup_setterNames (sequences : List Sequence) :
    ((setterLists enabled sequences).map setterName).Nodup :=
  nodup_map_setterName (nodup_setterLists enabled sequences)
    fun _ hm => ne_nil_of_mem_setterLists enabled hm

section

variable {enabled}

theorem short_of_mem_setterLists {sequences : List Sequence} (h : ∀ s ∈ sequences, s.Printable enabled)
    {channels : List Int} (hc : channels ∈ setterLists enabled sequences) :
    ∀ n ∈ channels, Numeral.isShort n = true := by
  obtain ⟨s, hs, hm⟩ := (mem_setterLists enabled).mp hc
  exact short_of_mem_neededLists (h s hs) hm

theorem channelSubroutines_eq {sequences : List Sequence} (h : ∀ s ∈ sequences, s.Printable enabled) :
    (setterLists enabled sequences).mapM channelSubroutine =
      .ok ((setterLists enabled sequences).map setterLines) :=
  mapM_ok fun _ hc =>
    channelSubroutine_eq (ne_nil_of_mem_setterLists enabled hc) (short_of_mem_setterLists h hc)

theorem subroutineNames_eq {sequences : List Sequence} (h : ∀ s ∈ sequences, s.Printable enabled) :
    (setterLists enabled sequences).mapM subroutineName =
      .ok ((setterLists enabled sequences).map setterName) :=
  mapM_ok fun _ hc =>
    subroutineName_eq (ne_nil_of_mem_setterLists enabled hc) (short_of_mem_setterLists h hc)

end

/-- The subroutines of channel lists as names with the tokens of their bodies. -/
def setterBlocks (lists : List (List Int)) : List (Text × List Text) :=
  lists.map fun channels => (setterName channels, setterTokens channels)

def blockTokens (blocks : List (Text × List Text)) : List Text :=
  blocks.flatMap fun block => definition block.1 block.2

/-! ### Looped scripts -/

def loopLines (s : Sequence) : List Text :=
  [title s.name, loopStart] ++ sequenceLines enabled width s.frames ++ [loopEnd, []] ++
    (setterLists enabled [s]).flatMap fun channels => setterLines channels ++ [[]]

section

variable {enabled} {s : Sequence}

theorem loopedLines_eq (h : s.Printable enabled) :
    loopedLines enabled width s =
      .ok (loopLines enabled width s, ⟨setterLists enabled [s]⟩) := by
  have hreg : Registry.empty.addAll (neededLists enabled s.frames) = ⟨setterLists enabled [s]⟩ := by
    simp [setterLists]
  have hall : ∀ t ∈ [s], t.Printable enabled := List.forall_mem_singleton.mpr h
  rw [loopedLines, framesLines_eq width h, hreg]
  change (setterLists enabled [s]).mapM channelSubroutine >>= _ = _
  rw [channelSubroutines_eq hall]
  simp only [bind, Except.bind, List.flatMap_map, loopLines]

theorem loopedLines_eq_error (h : ¬ s.Printable enabled) :
    loopedLines enabled width s = .error .tooLongToWrite := by
  have hframes := framesLines_eq_error width h .empty
  change loopWith s.name (framesLines enabled width .empty s.frames).1 _ = _
  rw [hframes]
  rfl

theorem looped_eq (h : s.Printable enabled) :
    looped enabled width s = .ok (text (loopLines enabled width s)) := by
  rw [looped, loopedLines_eq width h]
  rfl

theorem looped_eq_error (h : ¬ s.Printable enabled) :
    looped enabled width s = .error .tooLongToWrite := by
  rw [looped, loopedLines_eq_error width h]
  rfl

theorem compiled_eq (h : s.Printable enabled) :
    Compiled.ofSequence enabled width s =
      .ok ⟨s.name, text (loopLines enabled width s), setterLists enabled [s],
        (setterLists enabled [s]).map setterName, s.frames.length⟩ := by
  have hall : ∀ t ∈ [s], t.Printable enabled := List.forall_mem_singleton.mpr h
  rw [Compiled.ofSequence, loopedLines_eq width h]
  simp only [bind, Except.bind, Compiled.ofLines, Registry.subroutineNames, subroutineNames_eq hall]

theorem compiled_eq_error (h : ¬ s.Printable enabled) :
    Compiled.ofSequence enabled width s = .error .tooLongToWrite := by
  rw [Compiled.ofSequence, loopedLines_eq_error width h]
  rfl

end

theorem no_feed_loopLines (s : Sequence) : ∀ line ∈ loopLines enabled width s, CodePoint.char '\n' ∉ line := by
  intro line hl
  simp only [loopLines, List.mem_append, List.mem_cons, List.mem_flatMap, List.not_mem_nil,
    or_false] at hl
  rcases hl with (((rfl | rfl) | hl) | rfl | rfl) | ⟨channels, _, hl | rfl⟩
  · exact no_feed_title s.name
  · decide
  · exact no_feed_sequenceLines enabled width s.frames line hl
  · decide
  · decide
  · exact no_feed_setterLines channels line hl
  · decide

theorem tokens_looped (s : Sequence) :
    tokens (text (loopLines enabled width s)) =
      loopStart :: sequenceTokens enabled s.frames ++
        loopEnd :: blockTokens (setterBlocks (setterLists enabled [s])) := by
  have hstart : lineTokens loopStart = [loopStart] := by decide
  have hend : lineTokens loopEnd = [loopEnd] := by decide
  rw [tokens_text (no_feed_loopLines enabled width s), loopLines]
  simp only [List.flatMap_append, List.flatMap_cons, tokens_sequenceLines, hstart, hend, title,
    List.flatMap_assoc, tokens_setterLines, blockTokens, setterBlocks, List.flatMap_map]
  simp

/-! ### Programs -/

def assembledLines (sequences : List Sequence) : List Text :=
  (sequences.flatMap fun s => subroutineLines s.name (sequenceLines enabled width s.frames)) ++
    (setterLists enabled sequences).flatMap fun channels => [] :: setterLines channels

/-- The subroutines of a program as names with the tokens of their bodies. -/
def programBlocks (sequences : List Sequence) : List (Text × List Text) :=
  (sequences.map fun s => (Identifier.ofName s.name, sequenceTokens enabled s.frames)) ++
    setterBlocks (setterLists enabled sequences)

section

variable {enabled}

theorem sequenceSubroutine_eq {s : Sequence} (h : s.Printable enabled) (r : Registry) :
    sequenceSubroutine enabled width r s =
      (.ok (subroutineLines s.name (sequenceLines enabled width s.frames)),
        r.addAll (neededLists enabled s.frames)) := by
  rw [sequenceSubroutine, framesLines_eq width h]
  rfl

theorem sequenceSubroutine_eq_error {s : Sequence} (h : ¬ s.Printable enabled) (r : Registry) :
    (sequenceSubroutine enabled width r s).1 = .error .tooLongToWrite := by
  change (framesLines enabled width r s.frames).1.map _ = _
  rw [framesLines_eq_error width h]
  rfl

variable {sequences : List Sequence}

theorem merge_neededLists {frames : List Frame} (h : ∀ f ∈ frames, f.Printable enabled)
    (merged : Registry) :
    ∃ count, merged.merge (Registry.empty.addAll (neededLists enabled frames)) =
      (.ok count, merged.addAll (neededLists enabled frames)) := by
  have htakes : ∀ channels ∈ (Registry.empty.addAll (neededLists enabled frames)).lists,
      merged.Takes channels := by
    intro channels hc
    have hm := (Registry.mem_addAll.mp hc).resolve_left List.not_mem_nil
    exact Or.inr (short_of_mem_neededLists h hm)
  obtain ⟨count, hcount, _⟩ := Registry.registerAll_of_takes htakes
  rw [Registry.addAll_addAll] at hcount
  exact ⟨count, hcount⟩

/-- Registries that are merged hold what one registry for all sequences holds. -/
theorem writeSubroutines_eq (h : ∀ s ∈ sequences, s.Printable enabled) (merged : Registry) :
    writeSubroutines (sequenceSubroutine enabled width) merged sequences =
      .ok (sequences.flatMap fun s => subroutineLines s.name (sequenceLines enabled width s.frames),
        merged.addAll (sequences.flatMap fun s => neededLists enabled s.frames)) := by
  induction sequences generalizing merged with
  | nil => rfl
  | cons s sequences ih =>
    obtain ⟨hfirst, hrest⟩ := List.forall_mem_cons.mp h
    obtain ⟨count, hmerge⟩ := merge_neededLists hfirst merged
    rw [writeSubroutines, sequenceSubroutine_eq width hfirst]
    simp only [bind, Except.bind, hmerge, ih hrest, List.flatMap_cons, Registry.addAll_append]

theorem writeSubroutines_eq_error (h : ¬ ∀ s ∈ sequences, s.Printable enabled) (merged : Registry) :
    writeSubroutines (sequenceSubroutine enabled width) merged sequences =
      .error .tooLongToWrite := by
  induction sequences generalizing merged with
  | nil => exact absurd (by simp) h
  | cons s sequences ih =>
    rw [writeSubroutines]
    by_cases hfirst : s.Printable enabled
    · have hrest : ¬ ∀ t ∈ sequences, t.Printable enabled :=
        fun hrest => h (List.forall_mem_cons.mpr ⟨hfirst, hrest⟩)
      obtain ⟨count, hmerge⟩ := merge_neededLists hfirst merged
      rw [sequenceSubroutine_eq width hfirst]
      simp only [bind, Except.bind, hmerge, ih hrest]
    · have hlines := sequenceSubroutine_eq_error width hfirst .empty
      simp only [hlines]
      rfl

theorem program_eq (h : ∀ s ∈ sequences, s.Printable enabled) :
    program enabled width sequences = .ok (text (assembledLines enabled width sequences)) := by
  rw [program, programWith, writeSubroutines_eq width h]
  change (setterLists enabled sequences).mapM channelSubroutine >>= _ = _
  rw [channelSubroutines_eq h]
  simp only [bind, Except.bind, List.flatMap_map, assembledLines]

theorem program_eq_error (h : ¬ ∀ s ∈ sequences, s.Printable enabled) :
    program enabled width sequences = .error .tooLongToWrite := by
  rw [program, programWith, writeSubroutines_eq_error width h]
  rfl

end

theorem no_feed_subroutineLines (s : Sequence) :
    ∀ line ∈ subroutineLines s.name (sequenceLines enabled width s.frames), CodePoint.char '\n' ∉ line := by
  intro line hl
  simp only [subroutineLines, List.mem_append, List.mem_cons, List.not_mem_nil, or_false] at hl
  rcases hl with ((rfl | rfl) | hl) | rfl
  · exact no_feed_title s.name
  · exact no_feed_header (isToken_ofName s.name)
  · exact no_feed_sequenceLines enabled width s.frames line hl
  · decide

theorem no_feed_assembledLines (sequences : List Sequence) :
    ∀ line ∈ assembledLines enabled width sequences, CodePoint.char '\n' ∉ line := by
  intro line hl
  rcases List.mem_append.mp hl with hl | hl
  · obtain ⟨s, _, hs⟩ := List.mem_flatMap.mp hl
    exact no_feed_subroutineLines enabled width s line hs
  · obtain ⟨channels, _, hc⟩ := List.mem_flatMap.mp hl
    rcases List.mem_cons.mp hc with rfl | hc
    · decide
    · exact no_feed_setterLines channels line hc

theorem tokens_subroutineLines (s : Sequence) :
    (subroutineLines s.name (sequenceLines enabled width s.frames)).flatMap lineTokens =
      definition (Identifier.ofName s.name) (sequenceTokens enabled s.frames) := by
  simp only [subroutineLines, List.flatMap_append, List.flatMap_cons, tokens_sequenceLines, title,
    lineTokens_header (isToken_ofName s.name), lineTokens_return, definition]
  simp

theorem tokens_program (sequences : List Sequence) :
    tokens (text (assembledLines enabled width sequences)) =
      blockTokens (programBlocks enabled sequences) := by
  rw [tokens_text (no_feed_assembledLines enabled width sequences), assembledLines]
  simp only [List.flatMap_append, List.flatMap_assoc, tokens_subroutineLines, List.flatMap_cons,
    tokens_setterLines, lineTokens_nil, List.nil_append, blockTokens, programBlocks, setterBlocks,
    List.flatMap_map]

end Script

end ServoScript
