import Mathlib.Data.List.Forall2
import Mathlib.Data.List.TakeWhile
import ServoScript.Proofs.Payload

/-!
# The payloads that are taken

A payload is taken if and only if it has the documented form, and then as a whole: there is one frame for each
item, with its duration and its targets. Otherwise the first item that is no frame on its own is named. Texts
of targets need room for as many values as the limit says; the items before the first such text are checked
before the room is asked for.
-/

namespace ServoScript

namespace Text

theorem trim_eq_nil_iff {t : Text} : trim t = [] ↔ ∀ c ∈ t, isBlank c = true := by
  rw [trim, trimWhere, List.reverse_eq_nil_iff, List.dropWhile_eq_nil_iff]
  constructor
  · intro h
    -- The first character that is kept on the left would be kept on the right as well.
    have hnil : t.dropWhile isBlank = [] := by
      by_contra hne
      have hhead := List.head_dropWhile_not isBlank hne
      rw [h _ (List.mem_reverse.mpr (List.head_mem hne))] at hhead
      exact Bool.noConfusion hhead
    exact List.dropWhile_eq_nil_iff.mp hnil
  · intro h c hc
    exact h c ((List.dropWhile_sublist isBlank).mem (List.mem_reverse.mp hc))

end Text

namespace Json

/-- A limit as a value; null is none. -/
def ofLimit : Option Nat → Json
  | none => .null
  | some count => .int count

/-- A value that is given and shows more than blanks. -/
def IsName (v : Json) : Prop :=
  v.isGiven = true ∧ ∃ c ∈ v.toText, Text.isBlank c = false

def field? (key : Text) : Json → Option Json
  | .object members => member? key members
  | _ => none

@[simp] theorem field?_object (key : Text) (members : Members) :
    field? key (.object members) = member? key members :=
  rfl

end Json

namespace Frame

/-- An integer of 16 bits. Truth values and floating-point numbers are none. -/
def IsWordValue (v : Json) : Prop :=
  ∃ n : Int, v = .int n ∧ 0 ≤ n ∧ n ≤ 65535

/-- The documented targets: none, a text, or a list of words that is no longer than the limit. -/
inductive TargetsForm (limit : Option Nat) : Option Json → Prop where
  | absent : TargetsForm limit none
  | text (t : Text) : TargetsForm limit (some (.text t))
  | list {items : List Json} (words : ∀ v ∈ items, IsWordValue v)
      (length : ∀ count, limit = some count → items.length ≤ count) : TargetsForm limit (some (.list items))

/-- The documented form of a frame. -/
structure Documented (limit : Option Nat) (payload : Json) : Prop where
  object : payload.kind = .object
  duration : ∃ v, payload.field? "duration_ms" = some v ∧ IsWordValue v
  targets : TargetsForm limit (payload.field? "targets")

/-- The targets that a value gives. From a text come as many as the limit says, or as the text has words:
at each place the word there, and zero if it is not of 16 bits or there is no word. -/
inductive TargetsRead (limit : Option Nat) : Option Json → List Int → Prop where
  | absent : TargetsRead limit none []
  | text {t : Text} {targets : List Int} (length : targets.length = limit.getD (Text.words t).length)
      (values : ∀ i < targets.length,
        targets[i]? = some ((Text.words t)[i]?.elim 0 fun word => (Word.parseD word 0 : Int))) :
      TargetsRead limit (some (.text t)) targets
  | list (targets : List Int) : TargetsRead limit (some (.ofInts targets)) targets

/-- A frame is as its payload says. -/
structure Describes (limit : Option Nat) (payload : Json) (f : Frame) : Prop where
  name_ne_nil : f.name ≠ []
  name_length : f.name.length ≤ 80
  duration : payload.field? "duration_ms" = some (.int f.duration)
  targets : TargetsRead limit (payload.field? "targets") f.targets
  words : ∀ v ∈ f.targets, 0 ≤ v ∧ v ≤ 65535

/-- There is room for the targets that a limit asks for. -/
def HasRoom [Memory] (limit : Option Nat) : Prop :=
  ∀ count : Nat, limit = some count → (count : Int) < Memory.items

/-- The targets of a payload are a text, and nothing before them is wrong. -/
structure GivesText (payload : Json) : Prop where
  object : payload.kind = .object
  duration : ∃ v, payload.field? "duration_ms" = some v ∧ IsWordValue v
  text : ∃ t, payload.field? "targets" = some (.text t)

theorem GivesText.documented {payload : Json} (h : GivesText payload) (limit : Option Nat) :
    Documented limit payload := by
  obtain ⟨t, ht⟩ := h.text
  exact ⟨h.object, h.duration, ht ▸ .text t⟩

/-! ### Words -/

theorem isWordValue_iff {v : Json} : IsWordValue v ↔ ∃ n, word? v = some n :=
  exists_congr fun _ => word?_eq_some_iff.symm

theorem word?_eq_none {v : Json} (h : ¬ IsWordValue v) : word? v = none := by
  rw [isWordValue_iff] at h
  exact Option.eq_none_iff_forall_ne_some.mpr fun n hn => h ⟨n, hn⟩

theorem bind_word?_of_isWordValue {value : Option Json} (h : ∃ v, value = some v ∧ IsWordValue v) :
    ∃ n, value = some (.int n) ∧ value.bind word? = some n := by
  obtain ⟨_, rfl, n, rfl, hn⟩ := h
  exact ⟨n, rfl, word?_eq_some_iff.mpr ⟨rfl, hn⟩⟩

theorem wordsFrom_of_words {items : List Json} (h : ∀ v ∈ items, IsWordValue v) (index : Nat) :
    ∃ ns : List Int, wordsFrom index items = .ok ns ∧ items = ns.map .int := by
  induction items generalizing index with
  | nil => exact ⟨[], rfl, rfl⟩
  | cons v items ih =>
    obtain ⟨n, rfl, hn⟩ := h v List.mem_cons_self
    obtain ⟨ns, hns, rfl⟩ := ih (fun w hw => h w (List.mem_cons_of_mem _ hw)) (index + 1)
    refine ⟨n :: ns, ?_, rfl⟩
    rw [wordsFrom, word?_eq_some_iff.mpr ⟨rfl, hn⟩, hns]
    rfl

theorem wordsFrom_ints {ns : List Int} (h : ∀ n ∈ ns, 0 ≤ n ∧ n ≤ 65535) (index : Nat) :
    wordsFrom index (ns.map .int) = .ok ns := by
  have hvalues : ∀ v ∈ ns.map Json.int, IsWordValue v := by
    intro v hv
    obtain ⟨n, hn, rfl⟩ := List.mem_map.mp hv
    exact ⟨n, rfl, h n hn⟩
  obtain ⟨read, hread, heq⟩ := wordsFrom_of_words hvalues index
  rw [hread, List.map_injective_iff.mpr (fun _ _ => Json.int.inj) heq]

theorem wordsFrom_of_not_words {items : List Json} (h : ¬ ∀ v ∈ items, IsWordValue v) (index : Nat) :
    ∃ flaw, wordsFrom index items = .error flaw := by
  induction items generalizing index with
  | nil => exact absurd (by simp) h
  | cons v items ih =>
    rw [wordsFrom]
    by_cases hv : IsWordValue v
    · obtain ⟨n, hn⟩ := isWordValue_iff.mp hv
      obtain ⟨flaw, hflaw⟩ := ih (fun hall => h (List.forall_mem_cons.mpr ⟨hv, hall⟩)) (index + 1)
      exact ⟨flaw, by rw [hn, hflaw]; rfl⟩
    · exact ⟨.target index, by rw [word?_eq_none hv]⟩

/-! ### Targets -/

variable {limit : Option Nat}

theorem countOf_ofLimit [Memory] (h : HasRoom limit) (t : Text) :
    countOf (Json.ofLimit limit) t = .ok (limit.getD (Text.words t).length) := by
  cases limit with
  | none => rfl
  | some count => exact targetCount_ofNat (h count rfl)

theorem exceeds_ofLimit (items : List Json) :
    exceeds (Json.ofLimit limit) items = .ok (limit.any fun count => decide (count < items.length)) := by
  cases limit with
  | none => rfl
  | some count => exact exceeds_ofNat items

theorem getElem?_targetsOfText {count i : Nat} (h : i < count) (t : Text) :
    (targetsOfText count t)[i]? =
      some ((Text.words t)[i]?.elim 0 fun word => (Word.parseD word 0 : Int)) := by
  by_cases hi : i < (Text.words t).length
  · rw [targetsOfText, List.getElem?_append_left (by simp; omega), List.getElem?_map,
      List.getElem?_take_of_lt h, List.getElem?_eq_getElem hi]
    rfl
  · rw [targetsOfText, List.getElem?_append_right (by simp; omega),
      List.getElem?_replicate_of_lt (by simp; omega), List.getElem?_eq_none (Nat.not_lt.mp hi)]
    rfl

variable {members : Json.Members}

theorem targetsOf_text [Memory] (h : HasRoom limit) {t : Text}
    (ht : Json.member? "targets" members = some (.text t)) :
    targetsOf (Json.ofLimit limit) members =
      .ok (.ok (targetsOfText (limit.getD (Text.words t).length) t)) := by
  simp only [targetsOf, ht, Option.getD_some, countOf_ofLimit h t]
  rfl

theorem targetsOf_ints [Memory] {limit : Json} {targets : List Int} (h : ∀ v ∈ targets, 0 ≤ v ∧ v ≤ 65535)
    (hshort : exceeds limit (targets.map .int) = .ok false)
    (ht : Json.member? "targets" members = some (.ofInts targets)) :
    targetsOf limit members = .ok (.ok targets) := by
  simp only [targetsOf, ht, Option.getD_some, Json.ofInts, hshort]
  exact congrArg Except.ok (wordsFrom_ints h 0)

theorem exceeds_of_length {items : List Json} (h : ∀ count, limit = some count → items.length ≤ count) :
    exceeds (Json.ofLimit limit) items = .ok false := by
  rw [exceeds_ofLimit]
  cases limit with
  | none => rfl
  | some count => exact congrArg Except.ok (decide_eq_false (Nat.not_lt.mpr (h count rfl)))

theorem targetsOf_of_form [Memory] (h : TargetsForm limit (Json.member? "targets" members))
    (hroom : ∀ t, Json.member? "targets" members = some (.text t) → HasRoom limit) :
    ∃ targets, targetsOf (Json.ofLimit limit) members = .ok (.ok targets) ∧
      TargetsRead limit (Json.member? "targets" members) targets ∧ ∀ v ∈ targets, 0 ≤ v ∧ v ≤ 65535 := by
  generalize hvalue : Json.member? "targets" members = value at h hroom ⊢
  cases h with
  | absent =>
    have hshort : exceeds (Json.ofLimit limit) [] = .ok false :=
      exceeds_of_length fun count _ => Nat.zero_le count
    refine ⟨[], ?_, .absent, by simp⟩
    simp only [targetsOf, hvalue, Option.getD_none, hshort]
    rfl
  | text t =>
    have hlength := length_targetsOfText (limit.getD (Text.words t).length) t
    refine ⟨_, targetsOf_text (hroom t rfl) hvalue, .text hlength ?_, fun v hv => mem_targetsOfText hv⟩
    intro i hi
    exact getElem?_targetsOfText (hlength ▸ hi) t
  | @list items hwords hlength =>
    obtain ⟨ns, hns, rfl⟩ := wordsFrom_of_words hwords 0
    have hrange := (wordsFrom_eq_ok hns).2
    exact ⟨ns, targetsOf_ints hrange (exceeds_of_length hlength) hvalue, .list ns, hrange⟩

theorem targetsOf_of_not_form [Memory] (h : ¬ TargetsForm limit (Json.member? "targets" members)) :
    ∃ flaw, targetsOf (Json.ofLimit limit) members = .ok (.error flaw) := by
  rw [targetsOf]
  generalize Json.member? "targets" members = value at h
  cases value with
  | none => exact absurd .absent h
  | some v =>
    cases v with
    | text t => exact absurd (.text t) h
    | list items =>
      simp only [Option.getD_some, exceeds_ofLimit]
      cases hexceeds : limit.any fun count => decide (count < items.length) with
      | true =>
        obtain ⟨count, rfl⟩ : ∃ count, limit = some count := by
          cases limit with
          | none => cases hexceeds
          | some count => exact ⟨count, rfl⟩
        exact ⟨.tooManyTargets (Text.ofInt count), by rw [Json.ofLimit, overfull_ofNat]; rfl⟩
      | false =>
        have hlength : ∀ count, limit = some count → items.length ≤ count := by
          rintro count rfl
          simpa using hexceeds
        obtain ⟨flaw, hflaw⟩ := wordsFrom_of_not_words (fun hwords => h (.list hwords hlength)) 0
        exact ⟨flaw, congrArg Except.ok hflaw⟩
    | _ => exact ⟨.targetsKind, rfl⟩

theorem targetsOf_of_no_room [Memory] {count : Nat} (h : Memory.items ≤ (count : Int)) {t : Text}
    (ht : Json.member? "targets" members = some (.text t)) :
    targetsOf (.int count) members =
      .error (if Json.wordBound ≤ (count : Int) then .hugeCount else .noRoom) := by
  have hcount : countOf (.int count) t =
      .error (if Json.wordBound ≤ (count : Int) then .hugeCount else .noRoom) :=
    targetCount_of_no_room h
  simp only [targetsOf, ht, Option.getD_some, hcount]
  rfl

/-! ### One frame -/

theorem nameOf_ok (unnamed : Text) (members : Json.Members) :
    ∃ name, nameOf (.ok unnamed) members = .ok name ∧ (unnamed ≠ [] → name ≠ []) ∧ name.length ≤ 80 := by
  have hcut : ∀ name : Text, name ≠ [] → name.take maxNameLength ≠ [] := by
    intro name hne
    simpa [maxNameLength] using hne
  rw [nameOf]
  split_ifs with hgiven
  · exact ⟨_, rfl, hcut unnamed, List.length_take_le _ _⟩
  · exact ⟨_, rfl, fun _ => hcut _ (by simpa using hgiven), List.length_take_le _ _⟩

theorem ofPayloadOr_object [Memory] {unnamed : Except Fault Text} {name : Text} {duration : Int}
    (hname : nameOf unnamed members = .ok name)
    (hduration : (Json.member? "duration_ms" members).bind word? = some duration) (limit : Json) :
    ofPayloadOr unnamed limit (.object members) =
      (targetsOf limit members).map fun result => result.map fun targets => ⟨name, duration, targets⟩ := by
  simp only [ofPayloadOr, hname, hduration]
  exact bind_ok_eq_map _ _

variable [Memory]

/-- The documented form with room for its targets. -/
def Taken (limit : Option Nat) (payload : Json) : Prop :=
  Documented limit payload ∧ (GivesText payload → HasRoom limit)

variable {unnamed : Text} {payload : Json}

theorem ofPayloadOr_of_taken (hname : unnamed ≠ []) (h : Taken limit payload) :
    ∃ f, ofPayloadOr (.ok unnamed) (Json.ofLimit limit) payload = .ok (.ok f) ∧
      Describes limit payload f := by
  obtain ⟨hform, hroom⟩ := h
  cases payload with
  | object members =>
    obtain ⟨n, hv, hduration⟩ := bind_word?_of_isWordValue hform.duration
    rw [Json.field?_object] at hduration
    obtain ⟨name, hmade, hne, hlength⟩ := nameOf_ok unnamed members
    obtain ⟨targets, htargets, hread, hwords⟩ := targetsOf_of_form hform.targets
      fun t ht => hroom ⟨rfl, hform.duration, t, ht⟩
    refine ⟨⟨name, n, targets⟩, ?_, hne hname, hlength, hv, hread, hwords⟩
    simp only [ofPayloadOr, hmade, hduration, htargets, bind, Except.bind]
    rfl
  | _ => exact absurd hform.object (by simp [Json.kind])

theorem ofPayloadOr_of_not_documented (h : ¬ Documented limit payload) (unnamed : Text) :
    ∃ flaw, ofPayloadOr (.ok unnamed) (Json.ofLimit limit) payload = .ok (.error flaw) := by
  cases payload with
  | object members =>
    obtain ⟨name, hmade, _⟩ := nameOf_ok unnamed members
    simp only [ofPayloadOr, hmade, bind, Except.bind]
    cases hduration : (Json.member? "duration_ms" members).bind word? with
    | none => exact ⟨.duration, rfl⟩
    | some n =>
      obtain ⟨v, hv, hn⟩ := Option.bind_eq_some_iff.mp hduration
      have hform : ¬ TargetsForm limit (Json.member? "targets" members) := fun htargets =>
        h ⟨rfl, ⟨v, hv, isWordValue_iff.mpr ⟨n, hn⟩⟩, htargets⟩
      obtain ⟨flaw, hflaw⟩ := targetsOf_of_not_form hform
      exact ⟨flaw, by rw [hflaw]; rfl⟩
  | _ => exact ⟨.notObject, rfl⟩

theorem ofPayloadOr_of_no_room {count : Nat} (hroom : Memory.items ≤ (count : Int)) (h : GivesText payload) :
    ofPayloadOr (.ok unnamed) (.int count) payload =
      .error (if Json.wordBound ≤ (count : Int) then .hugeCount else .noRoom) := by
  cases payload with
  | object members =>
    obtain ⟨name, hmade, _⟩ := nameOf_ok unnamed members
    obtain ⟨n, _, hduration⟩ := bind_word?_of_isWordValue h.duration
    rw [Json.field?_object] at hduration
    obtain ⟨t, ht⟩ := h.text
    simp only [ofPayloadOr, hmade, hduration, targetsOf_of_no_room hroom ht, bind, Except.bind]
  | _ => exact absurd h.object (by simp [Json.kind])

end Frame

namespace Sequence

/-- `items` are to be the frames of a payload that is a sequence but for them. -/
structure HasFrames (payload : Json) (items : List Json) : Prop where
  object : payload.kind = .object
  name : ∃ v, payload.field? "name" = some v ∧ v.IsName
  frames : payload.field? "frames" = none ∧ items = [] ∨ payload.field? "frames" = some (.list items)

/-- The documented form of a sequence. -/
def Documented (limit : Option Nat) (payload : Json) : Prop :=
  ∃ items, HasFrames payload items ∧ ∀ item ∈ items, Frame.Documented limit item

/-- A sequence is as its payload says: there is one frame for each item. -/
def Describes (limit : Option Nat) (payload : Json) (s : Sequence) : Prop :=
  ∃ items, HasFrames payload items ∧ List.Forall₂ (Frame.Describes limit) items s.frames ∧
    ∃ v, payload.field? "name" = some v ∧ s.name = Text.trim v.toText

/-- Some item has a text for its targets, and nothing before it is wrong. -/
def ReachesText (limit : Option Nat) (payload : Json) : Prop :=
  ∃ before item after, HasFrames payload (before ++ item :: after) ∧
    (∀ v ∈ before, Frame.Documented limit v) ∧ Frame.GivesText item

variable {limit : Option Nat} {payload : Json} {items before after : List Json} {item : Json}

theorem getD_list_eq_iff {value : Option Json} :
    value.getD (.list []) = .list items ↔ value = none ∧ items = [] ∨ value = some (.list items) := by
  cases value with
  | none => simp [eq_comm]
  | some v => simp

theorem HasFrames.unique {more : List Json} (h : HasFrames payload items) (hmore : HasFrames payload more) :
    items = more :=
  Json.list.inj ((getD_list_eq_iff.mpr h.frames).symm.trans (getD_list_eq_iff.mpr hmore.frames))

/-! ### What stands around the frames -/

theorem givenName_ne_nil_iff {members : Json.Members} :
    Frame.givenName members ≠ [] ↔ ∃ v, Json.member? "name" members = some v ∧ v.IsName := by
  rw [Frame.givenName]
  cases Json.member? "name" members with
  | none => simp
  | some v =>
    simp only [Option.some.injEq, exists_eq_left']
    split_ifs with hgiven
    · rw [Json.IsName, ne_eq, Text.trim_eq_nil_iff]
      simp [hgiven]
    · simp [Json.IsName, hgiven]

theorem ofPayload_of_hasFrames [Memory] (h : HasFrames payload items) (limit : Json) :
    ∃ v, payload.field? "name" = some v ∧
      ofPayload limit payload =
        (framesFrom limit 0 items).map fun result =>
          result.map fun frames => ⟨Text.trim v.toText, frames⟩ := by
  cases payload with
  | object members =>
    obtain ⟨v, hv, hname⟩ := h.name
    rw [Json.field?_object] at hv
    have hgiven : Frame.givenName members = Text.trim v.toText := by
      simp only [Frame.givenName, hv, hname.1, if_true]
    have hne : (Frame.givenName members).isEmpty = false :=
      List.isEmpty_eq_false_iff.mpr (givenName_ne_nil_iff.mpr ⟨v, hv, hname⟩)
    have hitems : (Json.member? "frames" members).getD (.list []) = .list items :=
      getD_list_eq_iff.mpr h.frames
    refine ⟨v, hv, ?_⟩
    rw [← hgiven]
    simp only [ofPayload, hne, hitems]
    exact bind_ok_eq_map _ _
  | _ => exact absurd h.object (by simp [Json.kind])

theorem ofPayload_of_not_hasFrames [Memory] (h : ∀ items, ¬ HasFrames payload items) (limit : Json) :
    ∃ flaw, ofPayload limit payload = .ok (.error flaw) := by
  cases payload with
  | object members =>
    simp only [ofPayload]
    split_ifs with hname
    · exact ⟨.name, rfl⟩
    · have hgiven : Frame.givenName members ≠ [] := by simpa using hname
      split
      · next items hitems =>
        exact absurd ⟨rfl, givenName_ne_nil_iff.mp hgiven, getD_list_eq_iff.mp hitems⟩ (h items)
      · exact ⟨.framesKind, rfl⟩
  | _ => exact ⟨.notObject, rfl⟩

/-! ### The frames in order -/

theorem placeName_ne_nil (place : Nat) : Frame.placeName place ≠ [] := by
  intro h
  exact absurd (List.append_eq_nil_iff.mp h).1 (by decide)

section

variable [Memory]

/-- The items that are taken become frames, one after the other, and reading goes on behind them. -/
theorem framesFrom_append (h : ∀ v ∈ before, Frame.Taken limit v) (rest : List Json) (index : Nat) :
    ∃ frames, List.Forall₂ (Frame.Describes limit) before frames ∧
      framesFrom (Json.ofLimit limit) index (before ++ rest) =
        (framesFrom (Json.ofLimit limit) (index + before.length) rest).map fun result =>
          result.map (frames ++ ·) := by
  induction before generalizing index with
  | nil =>
    refine ⟨[], .nil, ?_⟩
    rw [List.nil_append, List.length_nil, Nat.add_zero]
    rcases framesFrom (Json.ofLimit limit) index rest with fault | flaw | frames
    all_goals rfl
  | cons v before ih =>
    obtain ⟨f, hf, hdescribes⟩ := Frame.ofPayloadOr_of_taken (placeName_ne_nil index) (h v List.mem_cons_self)
    obtain ⟨frames, hframes, hrest⟩ := ih (fun w hw => h w (List.mem_cons_of_mem _ hw)) (index + 1)
    refine ⟨f :: frames, .cons hdescribes hframes, ?_⟩
    rw [List.cons_append, framesFrom, hf, List.length_cons, Nat.add_comm before.length 1, ← Nat.add_assoc]
    simp only [bind, Except.bind, hrest]
    rcases framesFrom (Json.ofLimit limit) (index + 1 + before.length) rest with fault | flaw | others
    all_goals rfl

theorem framesFrom_of_taken (h : ∀ v ∈ items, Frame.Taken limit v) :
    ∃ frames, framesFrom (Json.ofLimit limit) 0 items = .ok (.ok frames) ∧
      List.Forall₂ (Frame.Describes limit) items frames := by
  obtain ⟨frames, hframes, hrest⟩ := framesFrom_append h [] 0
  refine ⟨frames, ?_, hframes⟩
  rw [List.append_nil] at hrest
  rw [hrest, framesFrom]
  simp [Except.map]

theorem framesFrom_of_not_documented (h : ∀ v ∈ before, Frame.Taken limit v)
    (hitem : ¬ Frame.Documented limit item) (after : List Json) :
    ∃ flaw, framesFrom (Json.ofLimit limit) 0 (before ++ item :: after) =
      .ok (.error (.frame before.length flaw)) := by
  obtain ⟨frames, _, hrest⟩ := framesFrom_append h (item :: after) 0
  obtain ⟨flaw, hflaw⟩ := Frame.ofPayloadOr_of_not_documented hitem (Frame.placeName (0 + before.length))
  refine ⟨flaw, ?_⟩
  rw [hrest, framesFrom, hflaw, Nat.zero_add]
  rfl

theorem framesFrom_of_no_room {count : Nat} (hroom : Memory.items ≤ (count : Int))
    (h : ∀ v ∈ before, Frame.Taken (some count) v) (hitem : Frame.GivesText item) (after : List Json) :
    framesFrom (.int count) 0 (before ++ item :: after) =
      .error (if Json.wordBound ≤ (count : Int) then .hugeCount else .noRoom) := by
  obtain ⟨frames, _, hrest⟩ := framesFrom_append h (item :: after) 0
  rw [Json.ofLimit] at hrest
  rw [hrest, framesFrom, Frame.ofPayloadOr_of_no_room hroom hitem]
  rfl

end

theorem exists_first {p : Json → Prop} (h : ∃ v ∈ items, p v) :
    ∃ before first after, items = before ++ first :: after ∧ (∀ v ∈ before, ¬ p v) ∧ p first := by
  classical
  obtain ⟨v, hv, hp⟩ := h
  have hsome : (items.find? fun w => decide (p w)).isSome = true :=
    List.find?_isSome.mpr ⟨v, hv, decide_eq_true hp⟩
  obtain ⟨first, hfirst⟩ := Option.isSome_iff_exists.mp hsome
  obtain ⟨hfound, before, after, rfl, hbefore⟩ := List.find?_eq_some_iff_append.mp hfirst
  exact ⟨before, first, after, rfl, by simpa using hbefore, of_decide_eq_true hfound⟩

def frameLabel (index : Nat) : Text :=
  "frames[" ++ Text.ofNat index ++ "]"

theorem frameLabel_isPrefix (index : Nat) (flaw : Frame.Flaw) :
    frameLabel index <+: (Flaw.frame index flaw).message := by
  cases flaw with
  | notObject => exact List.prefix_append _ _
  | duration => exact List.prefix_append _ _
  | targetsKind => exact List.prefix_append _ _
  | tooManyTargets limit =>
    exact ((List.prefix_append _ _).trans (List.prefix_append _ _)).trans (List.prefix_append _ _)
  | target place =>
    exact ((List.prefix_append _ _).trans (List.prefix_append _ _)).trans (List.prefix_append _ _)

section

variable [Memory]

/-- Where no text without room is reached, the items before the first flaw are taken. -/
theorem taken_of_documented {rest : List Json} (h : Frame.HasRoom limit ∨ ¬ ReachesText limit payload)
    (hframes : HasFrames payload (before ++ rest)) (hbefore : ∀ v ∈ before, Frame.Documented limit v) :
    ∀ v ∈ before, Frame.Taken limit v := by
  intro v hv
  refine ⟨hbefore v hv, fun htext => h.resolve_right (not_not.mpr ?_)⟩
  obtain ⟨front, back, rfl⟩ := List.append_of_mem hv
  rw [List.append_assoc, List.cons_append] at hframes
  exact ⟨front, v, back ++ rest, hframes, fun w hw => hbefore w (List.mem_append_left _ hw), htext⟩

/-! ### The whole -/

theorem ofPayload_of_documented (h : Frame.HasRoom limit ∨ ¬ ReachesText limit payload)
    (hform : Documented limit payload) :
    ∃ s, ofPayload (Json.ofLimit limit) payload = .ok (.ok s) ∧ Describes limit payload s := by
  obtain ⟨items, hframes, hitems⟩ := hform
  have hsplit : HasFrames payload (items ++ []) := by rwa [List.append_nil]
  obtain ⟨frames, hread, hdescribes⟩ := framesFrom_of_taken (taken_of_documented h hsplit hitems)
  obtain ⟨v, hv, heq⟩ := ofPayload_of_hasFrames hframes (Json.ofLimit limit)
  refine ⟨⟨Text.trim v.toText, frames⟩, ?_, items, hframes, hdescribes, v, hv, rfl⟩
  rw [heq, hread]
  rfl

theorem ofPayload_of_first_flaw (h : Frame.HasRoom limit ∨ ¬ ReachesText limit payload)
    (hframes : HasFrames payload (before ++ item :: after))
    (hbefore : ∀ v ∈ before, Frame.Documented limit v) (hitem : ¬ Frame.Documented limit item) :
    ∃ flaw, ofPayload (Json.ofLimit limit) payload = .ok (.error (.frame before.length flaw)) := by
  have htaken := taken_of_documented h hframes hbefore
  obtain ⟨flaw, hflaw⟩ := framesFrom_of_not_documented htaken hitem after
  obtain ⟨v, _, heq⟩ := ofPayload_of_hasFrames hframes (Json.ofLimit limit)
  refine ⟨flaw, ?_⟩
  rw [heq, hflaw]
  rfl

theorem ofPayload_of_not_documented (h : Frame.HasRoom limit ∨ ¬ ReachesText limit payload)
    (hform : ¬ Documented limit payload) :
    ∃ flaw, ofPayload (Json.ofLimit limit) payload = .ok (.error flaw) := by
  by_cases hframes : ∃ items, HasFrames payload items
  · obtain ⟨items, hframes⟩ := hframes
    have hbad : ∃ item ∈ items, ¬ Frame.Documented limit item := by
      by_contra hall
      refine hform ⟨items, hframes, fun item hi => ?_⟩
      by_contra hitem
      exact hall ⟨item, hi, hitem⟩
    obtain ⟨before, item, after, rfl, hbefore, hitem⟩ := exists_first hbad
    have hdocumented : ∀ v ∈ before, Frame.Documented limit v := fun v hv => not_not.mp (hbefore v hv)
    obtain ⟨flaw, hflaw⟩ := ofPayload_of_first_flaw h hframes hdocumented hitem
    exact ⟨_, hflaw⟩
  · exact ofPayload_of_not_hasFrames (fun items hi => hframes ⟨items, hi⟩) (Json.ofLimit limit)

theorem ofPayload_of_no_room {count : Nat} (hroom : Memory.items ≤ (count : Int))
    (h : ReachesText (some count) payload) :
    ofPayload (.int count) payload =
      .error (if Json.wordBound ≤ (count : Int) then .hugeCount else .noRoom) := by
  obtain ⟨before, item, after, hframes, hbefore, hitem⟩ := h
  have hdocumented : ∀ v ∈ before ++ [item], Frame.Documented (some count) v := by
    intro v hv
    rcases List.mem_append.mp hv with hv | hv
    · exact hbefore v hv
    · exact List.mem_singleton.mp hv ▸ hitem.documented (some count)
  -- An earlier item may have a text too: the first one is where reading stops.
  obtain ⟨front, v, back, hsplit, hfront, hv⟩ :=
    exists_first ⟨item, List.mem_append_right before (List.mem_singleton_self item), hitem⟩
  have htaken : ∀ w ∈ front, Frame.Taken (some count) w := by
    intro w hw
    refine ⟨hdocumented w (hsplit ▸ List.mem_append_left _ hw), fun htext => ?_⟩
    exact absurd htext (hfront w hw)
  have hitems : before ++ item :: after = front ++ v :: (back ++ after) := by
    rw [← List.singleton_append, ← List.append_assoc, hsplit, List.append_assoc, List.cons_append]
  obtain ⟨name, _, heq⟩ := ofPayload_of_hasFrames hframes (.int count)
  rw [heq, hitems, framesFrom_of_no_room hroom htaken hv]
  rfl

/-- Unless a text of targets is reached that there is no room for, a payload is read without a fault. It is
taken if and only if it has the documented form, and the sequence is then as it says. If its frames are at
fault, no sequence is made, and the message names the first of them that has not the documented form. -/
theorem ofPayload_documented (limit : Option Nat) (payload : Json) :
    (Frame.HasRoom limit ∨ ¬ ReachesText limit payload →
      ∃ result, ofPayload (Json.ofLimit limit) payload = .ok result ∧
        ((∃ s, result = .ok s) ↔ Documented limit payload) ∧
        (∀ s, result = .ok s → Describes limit payload s) ∧
        ∀ before item after, HasFrames payload (before ++ item :: after) →
          (∀ v ∈ before, Frame.Documented limit v) → ¬ Frame.Documented limit item →
          ∃ flaw, result = .error (.frame before.length flaw) ∧
            frameLabel before.length <+: (Flaw.frame before.length flaw).message) ∧
    ∀ count : Nat, limit = some count → Memory.items ≤ (count : Int) → ReachesText limit payload →
      ofPayload (Json.ofLimit limit) payload =
        .error (if Json.wordBound ≤ (count : Int) then .hugeCount else .noRoom) := by
  refine ⟨fun h => ?_, ?_⟩
  · by_cases hform : Documented limit payload
    · obtain ⟨s, hs, hdescribes⟩ := ofPayload_of_documented h hform
      refine ⟨.ok s, hs, ⟨fun _ => hform, fun _ => ⟨s, rfl⟩⟩, ?_, ?_⟩
      · rintro _ ⟨⟩
        exact hdescribes
      · intro before item after hframes _ hitem
        obtain ⟨items, hitems, hall⟩ := hform
        have hmem : item ∈ items := by simp [hitems.unique hframes]
        exact absurd (hall item hmem) hitem
    · obtain ⟨flaw, hflaw⟩ := ofPayload_of_not_documented h hform
      refine ⟨.error flaw, hflaw, ⟨nofun, fun hd => absurd hd hform⟩, nofun, ?_⟩
      intro before item after hframes hbefore hitem
      obtain ⟨first, hfirst⟩ := ofPayload_of_first_flaw h hframes hbefore hitem
      rw [hflaw] at hfirst
      exact ⟨first, Except.ok.inj hfirst, frameLabel_isPrefix before.length first⟩
  · rintro count rfl hroom hreaches
    exact ofPayload_of_no_room hroom hreaches

end

/-- A name between blanks, a text with fewer words than the limit, and a list that is as long as it. -/
theorem ofPayload_documented_pair : ∃ result,
    @ofPayload Memory.least (.int 3) (.object [("name", .text " wave "), ("frames", .list [
      .object [("duration_ms", .int 500), ("targets", .text "7 x")],
      .object [("duration_ms", .int 65535), ("targets", .list [.int 1, .int 0, .int 65535])]])]) =
        .ok result ∧
    ∃ s, result = .ok s := by
  have hroom : @Frame.HasRoom Memory.least (some 3) := by
    rintro count ⟨⟩
    decide
  have htext : Frame.Documented (some 3) (.object [("duration_ms", .int 500), ("targets", .text "7 x")]) :=
    ⟨rfl, ⟨_, rfl, 500, rfl, by decide⟩, .text "7 x"⟩
  have hlist : Frame.Documented (some 3)
      (.object [("duration_ms", .int 65535), ("targets", .list [.int 1, .int 0, .int 65535])]) := by
    refine ⟨rfl, ⟨_, rfl, 65535, rfl, by decide⟩, .list ?_ ?_⟩
    · refine List.forall_mem_cons.mpr ⟨⟨1, rfl, by decide⟩, ?_⟩
      refine List.forall_mem_cons.mpr ⟨⟨0, rfl, by decide⟩, ?_⟩
      exact List.forall_mem_singleton.mpr ⟨65535, rfl, by decide⟩
    · rintro count ⟨⟩
      exact Nat.le_refl 3
  refine Exists.imp (fun result h => ⟨h.1, h.2.1.mpr ⟨_, ⟨rfl, ⟨_, rfl, rfl, 'w', ?_, ?_⟩, .inr rfl⟩, ?_⟩⟩)
    ((@ofPayload_documented Memory.least (some 3) _).1 (.inl hroom))
  · decide
  · decide
  · exact List.forall_mem_cons.mpr ⟨htext, List.forall_mem_singleton.mpr hlist⟩

/-- A text without words asks for as many targets as the limit says, and no list has that many. -/
theorem ofPayload_huge_count :
    letI := Memory.least
    ofPayload (.int 9223372036854775808) (.object [("name", .text "A"), ("frames", .list [
      .object [("duration_ms", .int 0), ("targets", .text "")]])]) = .error .hugeCount := by
  rfl

end Sequence

end ServoScript
