import Mathlib.Data.List.DropRight
import ServoScript.Proofs.PayloadForm

/-!
# Payloads that are read again

What a payload is taken as has a payload of its own. Reading this one gives the same sequence once more,
except for the names of frames: a name loses its blanks before it is cut to its greatest length, so that a
cut may leave blanks at its end, and these are lost at the second reading. The third reading changes nothing.
A negative limit admits texts of targets and no list, not even the empty one.
-/

namespace ServoScript

namespace Text

theorem dropWhile_of_isPrefix {p : CodePoint → Bool} {s t : Text} (h : s <+: t) (ht : t.dropWhile p = t) :
    s.dropWhile p = s := by
  obtain ⟨rest, rfl⟩ := h
  cases s with
  | nil => rfl
  | cons c s =>
    have hc : ¬ p c = true := List.dropWhile_eq_self_iff.mp ht (Nat.zero_lt_succ _)
    exact List.dropWhile_cons_of_neg hc

theorem dropWhile_trim (t : Text) : (trim t).dropWhile isBlank = trim t :=
  dropWhile_of_isPrefix (List.rdropWhile_prefix isBlank (t.dropWhile isBlank))
    (List.dropWhile_idempotent isBlank t)

theorem trim_eq_rdropWhile {t : Text} (h : t.dropWhile isBlank = t) : trim t = t.rdropWhile isBlank := by
  rw [trim, trimWhere, h]
  rfl

theorem trim_trim (t : Text) : trim (trim t) = trim t := by
  rw [trim_eq_rdropWhile (dropWhile_trim t)]
  exact List.rdropWhile_idempotent isBlank _

/-- A text without blanks at its ends, cut to the greatest length of a name. -/
def IsCut (name : Text) : Prop :=
  ∃ t : Text, t ≠ [] ∧ trim t = t ∧ name = t.take Frame.maxNameLength

namespace IsCut

variable {name : Text}

theorem length_le (h : IsCut name) : name.length ≤ 80 := by
  obtain ⟨t, _, _, rfl⟩ := h
  exact List.length_take_le _ _

theorem trim_eq (h : IsCut name) : trim name = name.rdropWhile isBlank := by
  obtain ⟨t, _, htrim, rfl⟩ := h
  exact trim_eq_rdropWhile (dropWhile_of_isPrefix (List.take_prefix _ t) (htrim ▸ dropWhile_trim t))

theorem trim_ne_nil (h : IsCut name) : trim name ≠ [] := by
  obtain ⟨t, hne, htrim, rfl⟩ := h
  cases t with
  | nil => exact absurd rfl hne
  | cons c rest =>
    have hopens : (c :: rest).dropWhile isBlank = c :: rest := htrim ▸ dropWhile_trim (c :: rest)
    have hc : ¬ isBlank c = true := List.dropWhile_eq_self_iff.mp hopens (Nat.zero_lt_succ _)
    intro hnil
    exact hc (trim_eq_nil_iff.mp hnil c List.mem_cons_self)

theorem trim_eq_self_of_length (h : IsCut name) (hlength : name.length ≠ 80) : trim name = name := by
  obtain ⟨t, _, htrim, rfl⟩ := h
  have hshort : t.length ≤ 80 := by
    rw [List.length_take, Frame.maxNameLength] at hlength
    omega
  rwa [Frame.maxNameLength, List.take_of_length_le hshort]

theorem ne_nil (h : IsCut name) : name ≠ [] := by
  rintro rfl
  exact h.trim_ne_nil rfl

theorem take_trim (h : IsCut name) : (trim name).take Frame.maxNameLength = trim name := by
  apply List.take_of_length_le
  rw [h.trim_eq]
  exact (List.rdropWhile_prefix isBlank name).length_le.trans h.length_le

theorem trimmed (h : IsCut name) : IsCut (trim name) :=
  ⟨trim name, h.trim_ne_nil, trim_trim name, h.take_trim.symm⟩

/-- What such a name loses when it is trimmed stands at its end, and is nothing unless the name has been
cut. -/
theorem eq_trim_append (h : IsCut name) :
    ∃ gap, name = trim name ++ gap ∧ (∀ c ∈ gap, isBlank c = true) ∧ (gap ≠ [] → name.length = 80) := by
  refine ⟨name.rtakeWhile isBlank, ?_, ?_, ?_⟩
  · rw [h.trim_eq, List.rdropWhile_append_rtakeWhile]
  · exact fun c hc => List.mem_rtakeWhile_imp hc
  · intro hgap
    by_contra hlength
    have hself := h.trim_eq_self_of_length hlength
    rw [h.trim_eq] at hself
    have hsplit : name.rdropWhile isBlank ++ name.rtakeWhile isBlank = name :=
      List.rdropWhile_append_rtakeWhile
    rw [hself] at hsplit
    exact hgap (List.append_right_eq_self.mp hsplit)

end IsCut

end Text

/-- A limit as a value, negative ones among them; null is none. -/
def Json.ofCount : Option Int → Json
  | none => .null
  | some count => .int count

namespace Frame

variable {limit : Option Int} {members : Json.Members} {f : Frame}

/-- What reading a payload makes sure of. -/
structure Settled (limit : Option Int) (f : Frame) : Prop extends f.InRange where
  name : Text.IsCut f.name
  length : ∀ count, limit = some count → f.targets.length ≤ count.toNat

/-- The frame that is read from the payload of a frame. -/
def reread (f : Frame) : Frame :=
  { f with name := Text.trim f.name }

theorem Settled.reread (h : f.Settled limit) : f.reread.Settled limit :=
  ⟨⟨h.duration, h.targets⟩, h.name.trimmed, h.length⟩

theorem reread_reread (f : Frame) : f.reread.reread = f.reread := by
  simp only [Frame.reread, Text.trim_trim]

/-! ### What is read is settled -/

theorem trim_placeName (place : Nat) : Text.trim (placeName place) = placeName place := by
  have hopens : (placeName place).dropWhile Text.isBlank = placeName place := rfl
  rw [Text.trim_eq_rdropWhile hopens, List.rdropWhile_eq_self_iff]
  intro hne
  have hlast : (placeName place).getLast hne = (Text.ofNat (place + 1)).getLast (Text.ofNat_ne_nil _) :=
    List.getLast_append_of_ne_nil _ _
  rw [hlast, Text.isBlank_of_isDigit (Text.isDigit_of_mem_ofNat (List.getLast_mem _))]
  exact Bool.false_ne_true

theorem trim_givenName (members : Json.Members) : Text.trim (givenName members) = givenName members := by
  rw [givenName]
  split
  · rfl
  · split_ifs
    · exact Text.trim_trim _
    · rfl

theorem isCut_of_nameOf {place : Nat} {name : Text}
    (h : nameOf (.ok (placeName place)) members = .ok name) : Text.IsCut name := by
  obtain ⟨t, ht, rfl⟩ := map_eq_ok h
  split_ifs at ht with hgiven
  · cases ht
    exact ⟨_, Sequence.placeName_ne_nil place, trim_placeName place, rfl⟩
  · cases ht
    exact ⟨_, by simpa using hgiven, trim_givenName members, rfl⟩

theorem targetCount_eq_ok [Memory] {count : Int} {n : Nat} (h : targetCount count = .ok n) :
    n = count.toNat := by
  rw [targetCount] at h
  split_ifs at h
  exact (Except.ok.inj h).symm

theorem targetsOf_eq_ok [Memory] {targets : List Int}
    (h : targetsOf (Json.ofCount limit) members = .ok (.ok targets)) :
    (∀ v ∈ targets, 0 ≤ v ∧ v ≤ 65535) ∧ ∀ count, limit = some count → targets.length ≤ count.toNat := by
  rw [targetsOf] at h
  split at h
  · next t _ =>
    obtain ⟨n, hn, heq⟩ := bind_eq_ok h
    cases heq
    refine ⟨fun v hv => mem_targetsOfText hv, ?_⟩
    rintro count rfl
    rw [length_targetsOfText, targetCount_eq_ok hn]
  · next items _ =>
    obtain ⟨exceeding, hexceeds, heq⟩ := bind_eq_ok h
    cases exceeding with
    | true =>
      obtain ⟨flaw, _, heq⟩ := bind_eq_ok heq
      cases heq
    | false =>
      obtain ⟨hlength, hwords⟩ := wordsFrom_eq_ok (Except.ok.inj heq)
      refine ⟨hwords, ?_⟩
      rintro count rfl
      rw [Json.ofCount, exceeds_int, Except.ok.injEq, decide_eq_false_iff_not] at hexceeds
      omega
  · cases h

theorem settled_of_ofPayloadOr [Memory] {place : Nat} {payload : Json}
    (h : ofPayloadOr (.ok (placeName place)) (Json.ofCount limit) payload = .ok (.ok f)) :
    f.Settled limit := by
  cases payload with
  | object members =>
    obtain ⟨name, hname, h⟩ := bind_eq_ok h
    cases hduration : (Json.member? "duration_ms" members).bind word? with
    | none =>
      rw [hduration] at h
      cases h
    | some duration =>
      rw [hduration] at h
      obtain ⟨result, htargets, h⟩ := bind_eq_ok h
      obtain ⟨targets, rfl, rfl⟩ := map_eq_ok (Except.ok.inj h)
      obtain ⟨v, _, hv⟩ := Option.bind_eq_some_iff.mp hduration
      obtain ⟨hwords, hlength⟩ := targetsOf_eq_ok htargets
      exact ⟨⟨word?_eq_some hv, hwords⟩, isCut_of_nameOf hname, hlength⟩
  | _ => cases h

/-! ### What is settled is read again -/

theorem Settled.exceeds (h : f.Settled limit) :
    exceeds (Json.ofCount limit) (f.targets.map .int) = .ok (limit.any (· < 0)) := by
  cases limit with
  | none => rfl
  | some count =>
    -- Under a negative limit there are no targets, and no targets are still too many.
    have hlength := h.length count rfl
    rw [Json.ofCount, exceeds_int, List.length_map, Option.any_some, Except.ok.injEq, decide_eq_decide]
    omega

theorem givenName_text {name : Text} (hne : name ≠ [])
    (h : Json.member? "name" members = some (.text name)) : givenName members = Text.trim name := by
  have hgiven : (Json.text name).isGiven = true := by simpa [Json.isGiven] using hne
  simp only [givenName, h, hgiven, if_true]
  rfl

theorem Settled.nameOf (h : f.Settled limit) (unnamed : Except Fault Text)
    (hname : Json.member? "name" members = some (.text f.name)) :
    nameOf unnamed members = .ok f.reread.name := by
  have hne : (Text.trim f.name).isEmpty = false := List.isEmpty_eq_false_iff.mpr h.name.trim_ne_nil
  simp only [Frame.nameOf, givenName_text h.name.ne_nil hname, hne]
  exact congrArg Except.ok h.name.take_trim

variable [Memory]

/-- A list is as long as the limit admits, unless the limit admits none. -/
theorem Settled.targetsOf (h : f.Settled limit)
    (htargets : Json.member? "targets" members = some (.ofInts f.targets)) :
    targetsOf (Json.ofCount limit) members =
      if limit.any (· < 0) then (overfull (Json.ofCount limit)).map .error else .ok (.ok f.targets) := by
  simp only [Frame.targetsOf, htargets, Option.getD_some, Json.ofInts, h.exceeds, wordsFrom_ints h.targets]
  cases limit.any (· < 0)
  · rfl
  · exact bind_ok_eq_map _ _

theorem Settled.ofPayloadOr_members (h : f.Settled limit) (unnamed : Except Fault Text)
    (hname : Json.member? "name" members = some (.text f.name))
    (hduration : Json.member? "duration_ms" members = some (.int f.duration))
    (htargets : Json.member? "targets" members = some (.ofInts f.targets)) :
    ofPayloadOr unnamed (Json.ofCount limit) (.object members) =
      if limit.any (· < 0) then (overfull (Json.ofCount limit)).map .error else .ok (.ok f.reread) := by
  have hword : (Json.member? "duration_ms" members).bind word? = some f.duration := by
    rw [hduration]
    exact word?_eq_some_iff.mpr ⟨rfl, h.duration⟩
  rw [ofPayloadOr_object (h.nameOf unnamed hname) hword, h.targetsOf htargets]
  cases limit.any (· < 0)
  · rfl
  · cases overfull (Json.ofCount limit) <;> rfl

theorem Settled.ofPayloadOr_toPayload (h : f.Settled limit) (unnamed : Except Fault Text) :
    ofPayloadOr unnamed (Json.ofCount limit) f.toPayload =
      if limit.any (· < 0) then (overfull (Json.ofCount limit)).map .error else .ok (.ok f.reread) :=
  h.ofPayloadOr_members unnamed rfl rfl rfl

end Frame

namespace Sequence

variable {limit : Option Int} {s : Sequence} {frames : List Frame}

/-- The sequence that is read from the payload of a sequence. -/
def reread (s : Sequence) : Sequence :=
  { s with frames := s.frames.map Frame.reread }

theorem reread_reread (s : Sequence) : s.reread.reread = s.reread := by
  simp only [reread, List.map_map]
  exact congrArg (Sequence.mk s.name) (List.map_congr_left fun f _ => f.reread_reread)

/-- What reading a payload makes sure of. -/
structure Settled (limit : Option Int) (s : Sequence) : Prop where
  name_ne_nil : s.name ≠ []
  trim_name : Text.trim s.name = s.name
  frames : ∀ f ∈ s.frames, f.Settled limit

theorem Settled.reread (h : s.Settled limit) : s.reread.Settled limit := by
  refine ⟨h.name_ne_nil, h.trim_name, ?_⟩
  intro f hf
  obtain ⟨g, hg, rfl⟩ := List.mem_map.mp hf
  exact (h.frames g hg).reread

theorem settled_of_framesFrom [Memory] {index : Nat} {items : List Json}
    (h : framesFrom (Json.ofCount limit) index items = .ok (.ok frames)) : ∀ f ∈ frames, f.Settled limit := by
  induction items generalizing index frames with
  | nil =>
    cases h
    exact List.forall_mem_nil _
  | cons item items ih =>
    obtain ⟨first, hfirst, h⟩ := bind_eq_ok h
    cases first with
    | error flaw => cases h
    | ok f =>
      obtain ⟨rest, hrest, h⟩ := bind_eq_ok h
      obtain ⟨others, rfl, rfl⟩ := map_eq_ok (Except.ok.inj h)
      exact List.forall_mem_cons.mpr ⟨Frame.settled_of_ofPayloadOr hfirst, ih hrest⟩

theorem settled_of_ofPayload [Memory] {payload : Json}
    (h : ofPayload (Json.ofCount limit) payload = .ok (.ok s)) :
    s.Settled limit := by
  have hframes : ∃ items, HasFrames payload items := by
    by_contra hnone
    obtain ⟨flaw, hflaw⟩ := ofPayload_of_not_hasFrames (not_exists.mp hnone) (Json.ofCount limit)
    rw [hflaw] at h
    cases h
  obtain ⟨items, hitems⟩ := hframes
  obtain ⟨v, hv, heq⟩ := ofPayload_of_hasFrames hitems (Json.ofCount limit)
  rw [heq] at h
  obtain ⟨result, hread, h⟩ := map_eq_ok h
  obtain ⟨frames, rfl, rfl⟩ := map_eq_ok h
  refine ⟨?_, Text.trim_trim _, settled_of_framesFrom hread⟩
  obtain ⟨w, hw, _, c, hc, hplain⟩ := hitems.name
  cases hv.symm.trans hw
  intro hnil
  rw [Text.trim_eq_nil_iff.mp hnil c hc] at hplain
  cases hplain

/-! ### Reading a settled sequence -/

theorem Settled.hasFrames (h : s.Settled limit) : HasFrames s.toPayload (s.frames.map Frame.toPayload) := by
  refine ⟨rfl, givenName_ne_nil_iff.mp ?_, .inr rfl⟩
  rw [Frame.givenName_text h.name_ne_nil rfl, h.trim_name]
  exact h.name_ne_nil

section

variable [Memory]

theorem Settled.ofPayload_toPayload_eq_map (h : s.Settled limit) (value : Json) :
    ofPayload value s.toPayload =
      (framesFrom value 0 (s.frames.map Frame.toPayload)).map fun result =>
        result.map fun frames => ⟨s.name, frames⟩ := by
  obtain ⟨v, hv, heq⟩ := ofPayload_of_hasFrames h.hasFrames value
  cases hv
  rw [heq]
  simp only [Json.toText, h.trim_name]

theorem framesFrom_map_toPayload (h : ∀ f ∈ frames, f.Settled limit) (hlimit : limit.any (· < 0) = false)
    (index : Nat) :
    framesFrom (Json.ofCount limit) index (frames.map Frame.toPayload) =
      .ok (.ok (frames.map Frame.reread)) := by
  induction frames generalizing index with
  | nil => rfl
  | cons f frames ih =>
    obtain ⟨hf, hframes⟩ := List.forall_mem_cons.mp h
    rw [List.map_cons, framesFrom, hf.ofPayloadOr_toPayload, hlimit, ih hframes]
    rfl

theorem Settled.ofPayload_toPayload (h : s.Settled limit)
    (hlimit : (∀ count, limit = some count → 0 ≤ count) ∨ s.frames = []) :
    ofPayload (Json.ofCount limit) s.toPayload = .ok (.ok s.reread) := by
  have hread : framesFrom (Json.ofCount limit) 0 (s.frames.map Frame.toPayload) =
      .ok (.ok (s.frames.map Frame.reread)) := by
    rcases hlimit with hlimit | hnone
    · apply framesFrom_map_toPayload h.frames
      cases limit with
      | none => rfl
      | some count => exact decide_eq_false (Int.not_lt.mpr (hlimit count rfl))
    · rw [hnone]
      rfl
  rw [h.ofPayload_toPayload_eq_map, hread]
  rfl

theorem Settled.ofPayload_toPayload_of_neg {count : Int} (h : s.Settled (some count)) (hcount : count < 0)
    (hframes : s.frames ≠ []) :
    ofPayload (.int count) s.toPayload =
      (Numeral.checkShort [count]).map fun _ => .error (.frame 0 (.tooManyTargets (Text.ofInt count))) := by
  obtain ⟨f, rest, hsplit⟩ := List.exists_cons_of_ne_nil hframes
  have hf := (h.frames f (by simp [hsplit])).ofPayloadOr_toPayload (.ok (Frame.placeName 0))
  rw [Option.any_some, decide_eq_true hcount, if_pos rfl, Json.ofCount,
    Frame.overfull_of_negative hcount] at hf
  rw [h.ofPayload_toPayload_eq_map, hsplit, List.map_cons, framesFrom, hf]
  cases Numeral.checkShort [count] <;> rfl

end

theorem reread_eq_self (h : ∀ f ∈ s.frames, Text.trim f.name = f.name) : s.reread = s := by
  have hframes : s.frames.map Frame.reread = s.frames := by
    apply map_eq_self
    intro f hf
    rw [Frame.reread, h f hf]
  rw [reread, hframes]

/-- A sequence that a payload is taken as is read again from its own payload, unless a negative limit
refuses its first list of targets. Its name, durations and targets stay as they are. The names of its frames
lose the blanks at their ends, of which there are none unless a name has 80 characters. What is then read
does not change any more. A negative limit with too many digits cannot even be named in the refusal. -/
theorem ofPayload_again [Memory] {payload : Json}
    (h : ofPayload (Json.ofCount limit) payload = .ok (.ok s)) :
    ((∀ count, limit = some count → 0 ≤ count) ∨ s.frames = [] →
      ofPayload (Json.ofCount limit) s.toPayload = .ok (.ok s.reread) ∧
      ofPayload (Json.ofCount limit) s.reread.toPayload = .ok (.ok s.reread)) ∧
    (∀ f ∈ s.frames, ∃ gap, f.name = f.reread.name ++ gap ∧ (∀ c ∈ gap, Text.isBlank c = true) ∧
      (gap ≠ [] → f.name.length = 80)) ∧
    ((∀ f ∈ s.frames, ∀ c, f.name.getLast? = some c → Text.isBlank c = false) → s.reread = s) ∧
    ∀ count, limit = some count → count < 0 → s.frames ≠ [] →
      ofPayload (Json.ofCount limit) s.toPayload =
        if Numeral.isShort count then .ok (.error (.frame 0 (.tooManyTargets (Text.ofInt count))))
        else .error .tooLongToWrite := by
  have hs := settled_of_ofPayload h
  refine ⟨?_, ?_, ?_, ?_⟩
  · intro hlimit
    refine ⟨hs.ofPayload_toPayload hlimit, ?_⟩
    have hnone : s.frames = [] → s.reread.frames = [] := fun hnil => List.map_eq_nil_iff.mpr hnil
    rw [hs.reread.ofPayload_toPayload (hlimit.imp_right hnone), reread_reread]
  · intro f hf
    exact (hs.frames f hf).name.eq_trim_append
  · intro hends
    apply reread_eq_self
    intro f hf
    rw [(hs.frames f hf).name.trim_eq, List.rdropWhile_eq_self_iff]
    intro hne
    rw [hends f hf _ (List.getLast?_eq_some_getLast hne)]
    exact Bool.false_ne_true
  · rintro count rfl hcount hframes
    rw [Json.ofCount, hs.ofPayload_toPayload_of_neg hcount hframes, Numeral.checkShort, List.all_cons,
      List.all_nil, Bool.and_true]
    cases Numeral.isShort count <;> rfl

/-- An unnamed frame with a text of targets, and a frame whose name is cut at the blank before its last
word. -/
theorem ofPayload_again_cut : ∃ s : Sequence,
    @ofPayload Memory.least (.int 3) (.object [("name", .text "\u2003wave\n"), ("frames", .list [
      .object [("duration_ms", .int 500), ("targets", .text "7 x")],
      .object [("name", .text (List.replicate 79 (CodePoint.char 'a') ++ " b")), ("duration_ms", .int 0),
        ("targets", .list [.int 1, .int 65535])]])]) = .ok (.ok s) ∧
    @ofPayload Memory.least (.int 3) s.toPayload = .ok (.ok s.reread) ∧
    @ofPayload Memory.least (.int 3) s.reread.toPayload = .ok (.ok s.reread) := by
  have hread : @ofPayload Memory.least (Json.ofCount (some 3)) (.object [("name", .text "\u2003wave\n"),
      ("frames", .list [
        .object [("duration_ms", .int 500), ("targets", .text "7 x")],
        .object [("name", .text (List.replicate 79 (CodePoint.char 'a') ++ " b")), ("duration_ms", .int 0),
          ("targets", .list [.int 1, .int 65535])]])]) =
      .ok (.ok ⟨"wave", [⟨"Frame 1", 500, [7, 0, 0]⟩,
        ⟨List.replicate 79 (CodePoint.char 'a') ++ " ", 0, [1, 65535]⟩]⟩) := by
    rfl
  have hlimit : ∀ count, some (3 : Int) = some count → 0 ≤ count := by
    rintro count ⟨⟩
    decide
  obtain ⟨hagain, hthird⟩ := (@ofPayload_again _ _ Memory.least _ hread).1 (.inl hlimit)
  exact ⟨_, hread, hagain, hthird⟩

/-- A name that ends in a blank after the cut loses it at the second reading. A negative limit takes a text
for no targets, and then refuses the empty list. -/
theorem ofPayload_again_changed :
    (∃ s again : Sequence,
      @ofPayload Memory.least (.int 2) (.object [("name", .text "A"), ("frames", .list [
        .object [("name", .text (List.replicate 79 (CodePoint.char 'a') ++ " b")), ("duration_ms", .int 0),
          ("targets", .list [])]])]) = .ok (.ok s) ∧
      @ofPayload Memory.least (.int 2) s.toPayload = .ok (.ok again) ∧ again ≠ s) ∧
    ∃ s : Sequence,
      @ofPayload Memory.least (.int (-1)) (.object [("name", .text "A"), ("frames", .list [
        .object [("duration_ms", .int 0), ("targets", .text "7")]])]) = .ok (.ok s) ∧
      @ofPayload Memory.least (.int (-1)) s.toPayload =
        .ok (.error (.frame 0 (.tooManyTargets "-1"))) := by
  refine ⟨⟨⟨"A", [⟨List.replicate 79 (CodePoint.char 'a') ++ " ", 0, []⟩]⟩,
    ⟨"A", [⟨List.replicate 79 (CodePoint.char 'a'), 0, []⟩]⟩, rfl, rfl, by decide⟩, ?_⟩
  have hread : @ofPayload Memory.least (Json.ofCount (some (-1))) (.object [("name", .text "A"),
      ("frames", .list [.object [("duration_ms", .int 0), ("targets", .text "7")]])]) =
        .ok (.ok ⟨"A", [⟨"Frame 1", 0, []⟩]⟩) := by
    rfl
  have hshort : Numeral.checkShort [-1] = .ok () := Numeral.checkShort_eq_ok (by decide +kernel)
  have hagain := @Settled.ofPayload_toPayload_of_neg _ Memory.least (-1)
    (@settled_of_ofPayload _ _ Memory.least _ hread) (by decide) (by simp)
  rw [hshort] at hagain
  exact ⟨_, hread, hagain⟩

end Sequence

end ServoScript
