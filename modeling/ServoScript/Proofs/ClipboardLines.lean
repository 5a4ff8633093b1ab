import ServoScript.Proofs.Session

/-!
# Lines from outside

A text from outside is read line by line, and what a line gives depends on nothing but the line. Frames
that were read are written so that they are read again, but for returns in their names: a return within a
line belongs to a name, and blanks are written in its place.
-/

namespace ServoScript

namespace Text

theorem mem_of_mem_dropFinal {mark c : CodePoint} {t : Text} (h : c ∈ dropFinal mark t) : c ∈ t := by
  rw [dropFinal] at h
  split_ifs at h
  · exact (List.dropLast_sublist t).mem h
  · exact h

theorem count_dropFinal {mark c : CodePoint} (h : mark ≠ c) (t : Text) :
    (dropFinal mark t).count c = t.count c := by
  rw [dropFinal]
  split_ifs with hlast
  · obtain ⟨front, rfl⟩ := List.getLast?_eq_some_iff.mp hlast
    rw [List.dropLast_concat, List.count_append, List.count_singleton, beq_eq_false_iff_ne.mpr h]
    rfl
  · rfl

end Text

namespace Clipboard

variable {limit : Option Int} {f : Frame} {line : Text}

/-! ### One line -/

theorem decodeLine_eq_none_iff : decodeLine limit line = none ↔ line.count (CodePoint.char '\t') < 2 := by
  have hlength := Text.length_split '\t' line
  rw [decodeLine]
  split
  · next name duration target targets hsplit =>
    rw [hsplit] at hlength
    simp only [List.length_cons] at hlength
    refine iff_of_false (Option.some_ne_none _) ?_
    omega
  · next hshort =>
    refine ⟨fun _ => ?_, fun _ => rfl⟩
    by_contra hcount
    -- Three pieces would be a name, a duration and a first target.
    have hthree : 2 < (Text.split '\t' line).length := by omega
    rcases hsplit : Text.split '\t' line with _ | ⟨name, _ | ⟨duration, _ | ⟨target, targets⟩⟩⟩
    · simp [hsplit] at hthree
    · simp [hsplit] at hthree
    · simp [hsplit] at hthree
    · exact hshort name duration target targets hsplit

theorem decode_line (h : CodePoint.char '\n' ∉ line) :
    decode limit line = (decodeLine limit (Text.dropFinal '\r' line)).toList := by
  have hsplit : Text.split '\n' line = [line] := by
    rw [Text.split, Text.splitWhere_eq_splitOnP]
    apply List.splitOnP_eq_singleton
    intro c hc
    exact beq_eq_false_iff_ne.mpr fun he => h (he ▸ hc)
  rw [decode, hsplit]
  cases hline : decodeLine limit (Text.dropFinal '\r' line) with
  | none => simp [hline]
  | some f => simp [hline]

theorem decode_append_line (limit : Option Int) (a b : Text) :
    decode limit (a ++ CodePoint.char '\n' :: b) = decode limit a ++ decode limit b := by
  rw [decode, Text.split_append_cons, List.filterMap_append]
  rfl

/-! ### What is read -/

/-- A frame as it is read from a line. -/
structure IsRead (limit : Option Int) (f : Frame) : Prop where
  name_length : f.name.length ≤ 80
  no_tab : CodePoint.char '\t' ∉ f.name
  no_feed : CodePoint.char '\n' ∉ f.name
  inRange : f.InRange
  length_le : ∀ n, limit = some n → (f.targets.length : Int) ≤ max 0 n

theorem isRead_of_mem_decode {t : Text} (h : f ∈ decode limit t) : IsRead limit f := by
  obtain ⟨line, hline, hf⟩ := List.mem_filterMap.mp h
  have hrange := decodeLine_inRange hf
  obtain ⟨name, duration, target, targets, hsplit, rfl⟩ := decodeLine_eq_some hf
  have hname : name ∈ Text.split '\t' (Text.dropFinal '\r' line) := by simp [hsplit]
  refine ⟨List.length_take_le _ _, ?_, ?_, hrange, ?_⟩
  · intro hc
    exact Text.not_mem_of_mem_split hname (List.mem_of_mem_take hc)
  · intro hc
    have hmem := (Text.of_mem_splitWhere hname (List.mem_of_mem_take hc)).1
    exact Text.not_mem_of_mem_split hline (Text.mem_of_mem_dropFinal hmem)
  · rintro n rfl
    have hle := length_targetsOf_le n (target :: targets)
    dsimp only
    omega

/-- Of what the clipboard takes away from a frame, a frame that was read has returns only. -/
theorem carried_of_isRead (h : IsRead limit f) :
    carried limit f = ⟨Text.replace '\r' ' ' f.name, f.duration, f.targets⟩ := by
  have hname : (carried limit f).name = Text.replace '\r' ' ' f.name := by
    have hreplace : f.name.map (fun (c : CodePoint) =>
        if c = '\t' ∨ c = '\r' ∨ c = '\n' then CodePoint.char ' ' else c) =
          Text.replace '\r' ' ' f.name := by
      rw [Text.replace]
      apply List.map_congr_left
      intro c hc
      have htab : c ≠ '\t' := fun he => h.no_tab (he ▸ hc)
      have hfeed : c ≠ '\n' := fun he => h.no_feed (he ▸ hc)
      simp [htab, hfeed]
    have hlength : (Text.replace '\r' ' ' f.name).length ≤ 80 := by
      rw [Text.replace, List.length_map]
      exact h.name_length
    rw [← List.take_of_length_le hlength, ← hreplace]
    rfl
  have htargets : (carried limit f).targets = f.targets := by
    cases limit with
    | none => rfl
    | some n =>
      have hle := h.length_le n rfl
      exact List.take_of_length_le (by omega)
  rw [← hname, ← htargets]
  rfl

theorem decode_encode_decode (limit : Option Int) (t : Text) :
    decode limit (encode (decode limit t)) =
      (decode limit t).map fun f => ⟨Text.replace '\r' ' ' f.name, f.duration, f.targets⟩ := by
  have hrange : ∀ f ∈ decode limit t, f.InRange := fun f hf => (isRead_of_mem_decode hf).inRange
  rw [decode_encode_eq_map hrange limit]
  apply List.map_congr_left
  intro f hf
  exact carried_of_isRead (isRead_of_mem_decode hf)

end Clipboard

/-! ### Imports -/

/-- Importing two texts one after the other is importing them as one, with a line feed between them: all is
refused, or the sequence and the number of new frames are the same in the end. -/
theorem Workspace.run_importClipboard_lines [Memory] (w : Workspace) (index : Int) (a b : Text) :
    (∃ refusal, ∀ t, w.run (.importClipboard index t) = (.ok (.error refusal), w)) ∨
      ∃ first last m n middle after,
        w.run (.importClipboard index a) = (.ok (.ok (.imported first m)), middle) ∧
        middle.run (.importClipboard index b) = (.ok (.ok (.imported last n)), after) ∧
        w.run (.importClipboard index (a ++ CodePoint.char '\n' :: b)) =
          (.ok (.ok (.imported last (m + n))), after) := by
  cases hlookUp : w.session.lookUp index with
  | error refusal => exact Or.inl ⟨refusal, run_importClipboard_of_error hlookUp⟩
  | ok found =>
    obtain ⟨config, sequence⟩ := found
    obtain ⟨hc, hs⟩ := Session.lookUp_eq_ok hlookUp
    obtain ⟨before, behind, hheld, rfl⟩ := Session.sequenceAt_eq_ok hs
    have hfirst := run_importClipboard_of_held hc hheld a
    have hsecond := run_importClipboard_of_held (w := w.withSession ⟨w.session.config, before ++
      ⟨sequence.name, sequence.frames ++ Clipboard.decode (some config.table.size) a⟩ :: behind⟩) hc rfl b
    refine Or.inr ⟨_, _, _, _, _, _, hfirst, hsecond, ?_⟩
    rw [run_importClipboard_of_held hc hheld (a ++ CodePoint.char '\n' :: b)]
    simp only [Clipboard.decode_append_line, List.length_append, List.append_assoc, withSession]

namespace Clipboard

/-- Texts that are joined by a line feed give their frames one behind the other, in the clipboard and in a
session that imports them. What a line gives does not depend on its neighbours, and a line with fewer than
two tabs gives nothing. Every frame that is read has a short name without tabs and feeds, is of words and
keeps to the limit. Written and read again, frames that were read stay the same but for returns in names. -/
theorem decode_line_local [Memory] (limit : Option Int) (a b : Text) :
    decode limit (a ++ CodePoint.char '\n' :: b) = decode limit a ++ decode limit b ∧
    (∀ (w : Workspace) (index : Int),
      (∃ refusal, ∀ t, w.run (.importClipboard index t) = (.ok (.error refusal), w)) ∨
        ∃ first last m n middle after,
          w.run (.importClipboard index a) = (.ok (.ok (.imported first m)), middle) ∧
          middle.run (.importClipboard index b) = (.ok (.ok (.imported last n)), after) ∧
          w.run (.importClipboard index (a ++ CodePoint.char '\n' :: b)) =
            (.ok (.ok (.imported last (m + n))), after)) ∧
    (∀ line, CodePoint.char '\n' ∉ line → ∃ own : Option Frame,
      (own = none ↔ line.count (CodePoint.char '\t') < 2) ∧
      decode limit (a ++ CodePoint.char '\n' :: (line ++ CodePoint.char '\n' :: b)) =
        decode limit a ++ own.toList ++ decode limit b) ∧
    (∀ f ∈ decode limit a, IsRead limit f) ∧
    decode limit (encode (decode limit a)) =
      (decode limit a).map fun f => ⟨Text.replace '\r' ' ' f.name, f.duration, f.targets⟩ := by
  refine ⟨decode_append_line limit a b, fun w index => w.run_importClipboard_lines index a b, ?_,
    fun f hf => isRead_of_mem_decode hf, decode_encode_decode limit a⟩
  intro line hline
  refine ⟨decodeLine limit (Text.dropFinal '\r' line), ?_, ?_⟩
  · rw [decodeLine_eq_none_iff, Text.count_dropFinal (by decide)]
  · rw [decode_append_line, decode_append_line, decode_line hline, List.append_assoc]

/-- A line with a return inside and one at its end, a duration that is no word and a target too many, and
a line with too few fields. -/
theorem decode_line_local_mixed :
    decode (some 1) ("a\rb\tx\t7\t8\r" ++ CodePoint.char '\n' :: "bad\t1") = [⟨"a\rb", 500, [7]⟩] :=
  (@decode_line_local Memory.least (some 1) "a\rb\tx\t7\t8\r" "bad\t1").1.trans (by decide)

end Clipboard

end ServoScript
