import ServoScript.Proofs.PayloadForm
import ServoScript.Proofs.Transport

/-!
# Targets as a list or as a text

The targets of a frame are described by a list of integers or by a text of their numerals, with any blanks
between and around them. The text may give more targets than the list, but these are zeros, and no script
shows a zero behind the last target. The text needs room for all targets that the limit asks for, the list
does not.
-/

namespace ServoScript

namespace Frame

/-- The blanks in a text of targets: around them, and at least one between each two. -/
structure Spacing where
  front : Text
  gap : Text
  back : Text
  gap_ne_nil : gap ≠ []
  front_blank : ∀ c ∈ front, Text.isBlank c = true
  gap_blank : ∀ c ∈ gap, Text.isBlank c = true
  back_blank : ∀ c ∈ back, Text.isBlank c = true

def Spacing.text (spacing : Spacing) (targets : List Int) : Text :=
  spacing.front ++ List.intercalate spacing.gap (targets.map Text.ofInt) ++ spacing.back

theorem Spacing.words_text (spacing : Spacing) (targets : List Int) :
    Text.words (spacing.text targets) = targets.map Text.ofInt := by
  rw [text, Text.words_append_blanks spacing.back_blank, Text.words_blanks_append spacing.front_blank]
  exact words_numerals spacing.gap_ne_nil spacing.gap_blank targets

variable {members : Json.Members} {targets : List Int} {limit : Option Nat}

theorem targetsOfText_spacing (h : ∀ v ∈ targets, 0 ≤ v ∧ v ≤ 65535) (spacing : Spacing) {count : Nat}
    (hcount : targets.length ≤ count) :
    targetsOfText count (spacing.text targets) =
      targets ++ List.replicate (count - targets.length) 0 := by
  rw [targetsOfText_of_words h (spacing.words_text targets), List.take_of_length_le hcount]

/-! ### Payloads that differ in their targets -/

def withTargets (members : Json.Members) (value : Json) : Json :=
  .object (Json.put "targets" value members)

theorem ofPayloadOr_withTargets [Memory] {unnamed : Except Fault Text} {name : Text} {duration : Int}
    (hname : nameOf unnamed members = .ok name)
    (hduration : (Json.member? "duration_ms" members).bind word? = some duration) (limit value : Json) :
    ofPayloadOr unnamed limit (withTargets members value) =
      (targetsOf limit (Json.put "targets" value members)).map fun result =>
        result.map fun targets => ⟨name, duration, targets⟩ := by
  have hkeep : ∀ key : Text, key ≠ "targets" →
      Json.member? key (Json.put "targets" value members) = Json.member? key members :=
    fun key hne => Json.member?_put_of_ne hne value members
  have hmade : nameOf unnamed (Json.put "targets" value members) = .ok name := by
    rw [← hname, nameOf, nameOf, givenName, givenName, hkeep "name" (by decide)]
  have hread : (Json.member? "duration_ms" (Json.put "targets" value members)).bind word? =
      some duration := by rw [hkeep "duration_ms" (by decide), hduration]
  exact ofPayloadOr_object hmade hread limit

theorem nameAt_int {index : Int} (h : Numeral.isShort (index + 1) = true) :
    nameAt (.int index) = .ok ("Frame " ++ Text.ofInt (index + 1)) := by
  have hcheck : Numeral.checkShort [index + 1] = .ok () :=
    Numeral.checkShort_eq_ok (List.forall_mem_singleton.mpr h)
  simp only [nameAt, Json.successor, bind, Except.bind, hcheck]

end Frame

/-! ### Scripts -/

/-- A frame may take the place of another one if it has the same name, duration and target of every
channel: the script is the same, or there is none for either. -/
theorem Script.looped_replace {f g : Frame} (hname : g.name = f.name) (hduration : g.duration = f.duration)
    (htargets : ∀ c, g.target c = f.target c) (name : Text) (before after : List Frame) (enabled : List Int)
    (width : LineWidth) :
    looped enabled width ⟨name, before ++ g :: after⟩ = looped enabled width ⟨name, before ++ f :: after⟩ := by
  have hsame : ∀ frames : List Frame, List.Forall₂ (Frame.Alike enabled) frames frames :=
    fun frames => List.forall₂_same.mpr fun _ _ => ⟨rfl, rfl, fun _ _ => rfl⟩
  have halike : Sequence.Alike enabled ⟨name, before ++ g :: after⟩ ⟨name, before ++ f :: after⟩ :=
    ⟨rfl, List.rel_append (hsame before) (.cons ⟨hname, hduration, fun c _ => htargets c⟩ (hsame after))⟩
  exact looped_congr width halike

namespace Frame

variable {members : Json.Members} {targets : List Int} {limit : Option Nat}

/-- A list of words, and a text of their numerals with any blanks, are taken alike as the targets of a
payload. The frames have the same name and duration, without a limit the same targets, and in any case the
same target of every channel, so that one may stand for the other in any sequence without a change to its
script; there is a script unless a number in it is too long. Only a limit that there is no room for stops
the text, with a fault. -/
theorem ofPayload_text_list [Memory] (hwords : ∀ v ∈ targets, 0 ≤ v ∧ v ≤ 65535)
    (hlimit : ∀ count, limit = some count → targets.length ≤ count)
    (hduration : ∃ v, Json.member? "duration_ms" members = some v ∧ IsWordValue v) {index : Int}
    (hindex : Numeral.isShort (index + 1) = true) (spacing : Spacing) :
    ∃ f, ofPayload (.int index) (Json.ofLimit limit) (withTargets members (.ofInts targets)) = .ok (.ok f) ∧
      f.targets = targets ∧
      (HasRoom limit → ∃ g,
        ofPayload (.int index) (Json.ofLimit limit) (withTargets members (.text (spacing.text targets))) =
          .ok (.ok g) ∧
        g.name = f.name ∧ g.duration = f.duration ∧ (limit = none → g.targets = f.targets) ∧
        (∀ c, g.target c = f.target c) ∧
        ∀ name before after enabled width,
          Script.looped enabled width ⟨name, before ++ g :: after⟩ =
            Script.looped enabled width ⟨name, before ++ f :: after⟩ ∧
          (Sequence.Printable enabled ⟨name, before ++ f :: after⟩ → ∃ script,
            Script.looped enabled width ⟨name, before ++ f :: after⟩ = .ok script)) ∧
      ∀ count : Nat, limit = some count → Memory.items ≤ (count : Int) →
        ofPayload (.int index) (Json.ofLimit limit) (withTargets members (.text (spacing.text targets))) =
          .error (if Json.wordBound ≤ (count : Int) then .hugeCount else .noRoom) := by
  obtain ⟨duration, _, hread⟩ := bind_word?_of_isWordValue hduration
  obtain ⟨name, hname, _⟩ := nameOf_ok ("Frame " ++ Text.ofInt (index + 1)) members
  rw [← nameAt_int hindex] at hname
  have hpayload := ofPayloadOr_withTargets hname hread (Json.ofLimit limit)
  refine ⟨⟨name, duration, targets⟩, ?_, rfl, ?_, ?_⟩
  · have hshort : exceeds (Json.ofLimit limit) (targets.map .int) = .ok false :=
      exceeds_of_length fun count hc => by simpa using hlimit count hc
    rw [ofPayload, hpayload, targetsOf_ints hwords hshort (Json.member?_put _ _ _)]
    rfl
  · intro hroom
    have hcount : targets.length ≤ limit.getD (Text.words (spacing.text targets)).length := by
      cases limit with
      | none => simp [spacing.words_text]
      | some count => exact hlimit count rfl
    have hexact : limit = none → limit.getD (Text.words (spacing.text targets)).length = targets.length := by
      rintro rfl
      simp [spacing.words_text]
    have hmade := targetsOf_text hroom (Json.member?_put "targets" (.text (spacing.text targets)) members)
    rw [targetsOfText_spacing hwords spacing hcount] at hmade
    generalize limit.getD (Text.words (spacing.text targets)).length = count at hexact hmade
    have hsame := targetAt_append_zeros targets (count - targets.length)
    refine ⟨⟨name, duration, targets ++ List.replicate (count - targets.length) 0⟩, ?_, rfl, rfl, ?_, hsame,
      ?_⟩
    · rw [ofPayload, hpayload, hmade]
      rfl
    · intro hnone
      simp [hexact hnone]
    · intro place before after enabled width
      refine ⟨?_, fun hprintable => ⟨_, Script.looped_eq width hprintable⟩⟩
      apply Script.looped_replace
      · rfl
      · rfl
      · exact hsame
  · rintro count rfl hroom
    rw [ofPayload, hpayload]
    simp only [Json.ofLimit, targetsOf_of_no_room hroom (Json.member?_put _ _ _)]
    rfl

theorem isShort_one : Numeral.isShort (0 + 1) = true := by
  decide +kernel

/-- A tab in front, an em space and a blank between the targets, and a limit that asks for one more. -/
theorem ofPayload_text_list_wide :
    letI := Memory.least
    ∃ f g : Frame,
    ofPayload (.int 0) (.int 3) (.object [("duration_ms", .int 500), ("targets", .ofInts [7, 65535])]) =
      .ok (.ok f) ∧
    ofPayload (.int 0) (.int 3) (.object [("duration_ms", .int 500), ("targets", .text "\t7\u2003 65535")]) =
      .ok (.ok g) ∧
    f.targets = [7, 65535] ∧ ∀ c, g.target c = f.target c := by
  have hwords : ∀ v ∈ ([7, 65535] : List Int), 0 ≤ v ∧ v ≤ 65535 := by decide
  have hlimit : ∀ count, some 3 = some count → ([7, 65535] : List Int).length ≤ count := by
    rintro count ⟨⟩
    decide
  have hduration : ∃ v, Json.member? "duration_ms" [("duration_ms", .int 500)] = some v ∧ IsWordValue v :=
    ⟨_, rfl, 500, rfl, by decide⟩
  have hroom : @HasRoom Memory.least (some 3) := by
    rintro count ⟨⟩
    decide
  let spacing : Spacing :=
    ⟨"\t", "\u2003 ", [], by decide, by decide, by decide, by simp⟩
  obtain ⟨f, hf, htargets, htext, _⟩ :=
    @ofPayload_text_list _ _ _ Memory.least hwords hlimit hduration _ isShort_one spacing
  obtain ⟨g, hg, _, _, _, hsame, _⟩ := htext hroom
  exact ⟨f, g, hf, hg, htargets, hsame⟩

/-- A text of one word asks for as many targets as the limit says, and no list has that many. A list of one
word is taken. -/
theorem ofPayload_text_huge_count :
    letI := Memory.least
    (∃ f, ofPayload (.int 0) (.int 9223372036854775808)
      (.object [("duration_ms", .int 0), ("targets", .ofInts [1])]) = .ok (.ok f)) ∧
    ofPayload (.int 0) (.int 9223372036854775808)
      (.object [("duration_ms", .int 0), ("targets", .text "1")]) = .error .hugeCount := by
  let _ := Memory.least
  rw [ofPayload, nameAt_int isShort_one]
  exact ⟨⟨_, rfl⟩, rfl⟩

end Frame

end ServoScript
