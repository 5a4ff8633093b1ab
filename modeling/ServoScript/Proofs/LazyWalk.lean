import ServoScript.Draft.Frame
import ServoScript.Proofs.MinimalUpdate

/-!
# Walks through frames that change

Between two updates that a walk gives out, any frame may get other targets and frames may be added to the
list. An update compares the frame at its place as it is at this moment with the frame before as it was when
it was given out. What happens to a frame afterwards makes no difference, and a walk that has come to the end
of the list stays there.
-/

namespace ServoScript

/-- An update from the targets of the frame before to those of a frame: it writes the enabled channels whose
target is another one, or all of them if there is no frame before. -/
structure Update.Compares (enabled : List Int) (previous : Option (List Int)) (now : List Int)
    (u : Update) : Prop where
  first : previous = none → u.channels = enabled
  later : ∀ before, previous = some before →
    u.channels = enabled.filter fun c => targetAt now c ≠ targetAt before c
  values : u.values = u.channels.map (targetAt now)

theorem Update.compares_between (enabled : List Int) (previous : Option (List Int)) (now : List Int) :
    Compares enabled previous now (between enabled previous now) where
  first h := by
    rw [channels_between, h]
    exact List.filter_true enabled
  later before h := by
    rw [channels_between, h]
    refine List.filter_congr fun c _ => ?_
    rw [isNeeded, Bool.eq_iff_iff, bne_iff_ne, decide_eq_true_iff]
  values := by
    simp [values, channels, between, Function.comp_def]

namespace Cursor

/-- What can happen while a walk goes on. -/
inductive Event where
  /-- The walk is asked for the next update. -/
  | next
  /-- A frame gets other targets. It stands at one place, unless it is in the list more than once. -/
  | change (places : List Nat) (values : Json)
  /-- A frame is added behind the last one. -/
  | append (frame : Frame.Draft)

/-- A walk with the frames as they are now. -/
structure Walk where
  frames : List Frame.Draft
  cursor : Draft

/-- A request for the next update: the targets of all frames at this moment, and the answer. -/
structure Call where
  frames : List (List Int)
  answer : Except Fault (Option Update)

def Walk.start (enabled : List Int) (frames : List Frame.Draft) : Walk :=
  ⟨frames, .waiting (.ofInts enabled)⟩

/-- A frame with other targets, or as it was if the values are no targets. -/
def withTargets (values : Json) (d : Frame.Draft) : Frame.Draft :=
  match d.setTargets values with
  | .ok changed => changed
  | .error _ => d

namespace Walk

def targets (w : Walk) : List (List Int) :=
  w.frames.map Frame.Draft.targets

def step (w : Walk) : Event → Walk
  | .next => ⟨w.frames, (w.cursor.next w.frames).2⟩
  | .change places values =>
    ⟨w.frames.mapIdx fun place d => if place ∈ places then withTargets values d else d, w.cursor⟩
  | .append frame => ⟨w.frames ++ [frame], w.cursor⟩

def run (w : Walk) (events : List Event) : Walk :=
  events.foldl step w

def call? (w : Walk) : Event → Option Call
  | .next => some ⟨w.targets, (w.cursor.next w.frames).1⟩
  | _ => none

def calls (w : Walk) : List Event → List Call
  | [] => []
  | event :: rest => (w.call? event).toList ++ (w.step event).calls rest

@[simp] theorem calls_next (w : Walk) (rest : List Event) :
    w.calls (.next :: rest) =
      ⟨w.targets, (w.cursor.next w.frames).1⟩ :: (w.step .next).calls rest := rfl

@[simp] theorem calls_change (w : Walk) (places : List Nat) (values : Json) (rest : List Event) :
    w.calls (.change places values :: rest) = (w.step (.change places values)).calls rest := rfl

theorem calls_of_append (w : Walk) (events more : List Event) :
    w.calls (events ++ more) = w.calls events ++ (w.run events).calls more := by
  induction events generalizing w with
  | nil => rfl
  | cons event events ih =>
    rw [List.cons_append, calls, calls, ih, List.append_assoc]
    rfl

end Walk

/-- The calls of a walk from the first frame on. -/
def history (enabled : List Int) (frames : List Frame.Draft) (events : List Event) : List Call :=
  (Walk.start enabled frames).calls events

/-- The targets of the frame at place `k` when the update for this place is asked for. There are none if the
list has no such place then. -/
def shown (calls : List Call) (k : Nat) : Option (List Int) :=
  calls[k]?.bind fun call => call.frames[k]?

/-- The targets that the frame before place `k` had when it was given out. -/
def shownBefore (calls : List Call) : Nat → Option (List Int)
  | 0 => none
  | k + 1 => shown calls k

/-! ### What requests find -/

/-- What the call number `k` finds when the first call is for `place`. -/
def shownFrom (place : Nat) (calls : List Call) (k : Nat) : Option (List Int) :=
  calls[k]?.bind fun call => call.frames[place + k]?

theorem shownFrom_zero (calls : List Call) (k : Nat) : shownFrom 0 calls k = shown calls k := by
  rw [shownFrom, shown, Nat.zero_add]

/-- The targets that are found by successive calls, up to the first call that finds none. -/
def found (place : Nat) : List Call → List (List Int)
  | [] => []
  | call :: rest =>
    match call.frames[place]? with
    | none => []
    | some targets => targets :: found (place + 1) rest

theorem shownFrom_cons_zero (place : Nat) (call : Call) (calls : List Call) :
    shownFrom place (call :: calls) 0 = call.frames[place]? := rfl

theorem shownFrom_cons_succ (place : Nat) (call : Call) (calls : List Call) (k : Nat) :
    shownFrom place (call :: calls) (k + 1) = shownFrom (place + 1) calls k := by
  rw [shownFrom, shownFrom, List.getElem?_cons_succ, Nat.add_right_comm place 1 k, Nat.add_assoc]

theorem shownFrom_of_getElem?_found {place : Nat} {calls : List Call} {k : Nat} {targets : List Int}
    (h : (found place calls)[k]? = some targets) : shownFrom place calls k = some targets := by
  induction calls generalizing place k with
  | nil => simp [found] at h
  | cons call calls ih =>
    rw [found] at h
    cases hfirst : call.frames[place]? with
    | none => simp [hfirst] at h
    | some first =>
      simp only [hfirst] at h
      cases k with
      | zero => rwa [shownFrom_cons_zero, hfirst]
      | succ k =>
        rw [shownFrom_cons_succ]
        exact ih h

theorem getElem?_found_eq_none_iff {place : Nat} {calls : List Call} {k : Nat} :
    (found place calls)[k]? = none ↔ ∃ j ≤ k, shownFrom place calls j = none := by
  induction calls generalizing place k with
  | nil => exact iff_of_true rfl ⟨0, Nat.zero_le k, rfl⟩
  | cons call calls ih =>
    rw [found]
    cases hfirst : call.frames[place]? with
    | none => exact iff_of_true rfl ⟨0, Nat.zero_le k, hfirst⟩
    | some first =>
      have hzero : shownFrom place (call :: calls) 0 ≠ none := by
        rw [shownFrom_cons_zero, hfirst]
        exact Option.some_ne_none first
      cases k with
      | zero =>
        refine iff_of_false (Option.some_ne_none first) ?_
        rintro ⟨j, hj, hnone⟩
        obtain rfl := Nat.le_zero.mp hj
        exact hzero hnone
      | succ k =>
        dsimp only
        rw [List.getElem?_cons_succ, ih]
        constructor
        · rintro ⟨j, hj, hnone⟩
          exact ⟨j + 1, Nat.succ_le_succ hj, by rwa [shownFrom_cons_succ]⟩
        · rintro ⟨j, hj, hnone⟩
          cases j with
          | zero => exact absurd hnone hzero
          | succ j => exact ⟨j, Nat.le_of_succ_le_succ hj, by rwa [shownFrom_cons_succ] at hnone⟩

/-! ### One request -/

/-- The place that a walk has come to, and the targets that it gave out last. -/
inductive Draft.At (enabled : List Int) : Draft → Nat → Option (List Int) → Prop
  | waiting : At enabled (.waiting (.ofInts enabled)) 0 none
  | walking (place : Nat) (previous : Option (List Int)) :
    At enabled (.started (.walking enabled place previous)) place previous

variable {enabled : List Int} {place : Nat} {previous : Option (List Int)} {c : Draft}
  {frames : List Frame.Draft}

theorem Draft.At.next_eq (h : c.At enabled place previous) (frames : List Frame.Draft) :
    c.next frames =
      let (update, cursor) :=
        (Cursor.walking enabled place previous).next (frames.map Frame.Draft.targets)
      (.ok update, .started cursor) := by
  cases h with
  | waiting =>
    rw [Draft.next, Json.toInts_ofInts]
    rfl
  | walking => rfl

/-- A walk that finds a frame at its place compares it with what it gave out last. -/
theorem Draft.At.next_of_some (h : c.At enabled place previous) {targets : List Int}
    (hframe : (frames.map Frame.Draft.targets)[place]? = some targets) :
    c.next frames = (.ok (some (Update.between enabled previous targets)),
      .started (.walking enabled (place + 1) (some targets))) := by
  rw [h.next_eq, Cursor.next, hframe]

theorem Draft.At.next_of_none (h : c.At enabled place previous)
    (hframe : (frames.map Frame.Draft.targets)[place]? = none) :
    c.next frames = (.ok none, .started .finished) := by
  rw [h.next_eq, Cursor.next, hframe]

/-! ### All requests -/

namespace Walk

theorem answers_of_finished {w : Walk} (h : w.cursor = .started .finished) (events : List Event) :
    (w.calls events).map Call.answer = List.replicate (w.calls events).length (.ok none) := by
  induction events generalizing w with
  | nil => rfl
  | cons event events ih =>
    cases event with
    | next =>
      have hnext : w.cursor.next w.frames = (.ok none, .started .finished) := by rw [h]; rfl
      rw [calls_next, List.map_cons, List.length_cons, List.replicate_succ, hnext,
        ih (w := w.step .next) (by rw [step, hnext])]
    | change places values => exact ih (w := w.step (.change places values)) h
    | append frame => exact ih (w := w.step (.append frame)) h

/-- The answers are the updates along the targets that were found, each taken when it was asked for. -/
theorem answers_eq {w : Walk} (h : w.cursor.At enabled place previous) (events : List Event) :
    (w.calls events).map Call.answer =
      (Update.along enabled previous (found place (w.calls events))).map (fun u => .ok (some u)) ++
        List.replicate ((w.calls events).length - (found place (w.calls events)).length) (.ok none) := by
  -- Only a request moves the walk, and only then is a frame looked at: the place and the last targets are
  -- the invariant, and what happens to the frames in between shows in the calls alone.
  induction events generalizing w place previous with
  | nil => rfl
  | cons event events ih =>
    cases event with
    | next =>
      rw [calls_next, found]
      cases hframe : w.targets[place]? with
      | none =>
        have hnext := h.next_of_none hframe
        have hrest := answers_of_finished (w := w.step .next) (by rw [step, hnext]) events
        rw [List.map_cons, hnext, hrest]
        rfl
      | some targets =>
        have hnext := h.next_of_some hframe
        have hrest := ih (w := w.step .next) (by rw [step, hnext]; exact .walking _ _)
        rw [List.map_cons, hnext, hrest]
        simp [Update.along]
    | change places values => exact ih (w := w.step (.change places values)) h
    | append frame => exact ih (w := w.step (.append frame)) h

theorem answer_eq {w : Walk} (h : w.cursor.At enabled place previous) {events : List Event} {k : Nat}
    {call : Call} (hcall : (w.calls events)[k]? = some call) :
    call.answer = .ok ((found place (w.calls events))[k]?.map
      (Update.between enabled (Update.before previous (found place (w.calls events)) k))) := by
  have hanswer : ((w.calls events).map Call.answer)[k]? = some call.answer := by
    rw [List.getElem?_map, hcall, Option.map_some]
  rw [answers_eq h, List.getElem?_append, List.length_map, Update.length_along, List.getElem?_map] at hanswer
  cases hfound : (found place (w.calls events))[k]? with
  | none =>
    have hle := List.getElem?_eq_none_iff.mp hfound
    rw [if_neg (Nat.not_lt.mpr hle)] at hanswer
    exact (List.eq_of_mem_replicate (List.mem_of_getElem? hanswer)).symm ▸ rfl
  | some targets =>
    have hlt := (List.getElem?_eq_some_iff.mp hfound).1
    rw [if_pos hlt, Update.getElem?_along enabled previous hfound, Option.map_some,
      Option.some.injEq] at hanswer
    rw [← hanswer, Option.map_some]

end Walk

/-! ### Changes behind the walk -/

/-- The places that a walk may still come to. -/
def Draft.Ahead : Draft → Nat → Prop
  | .waiting _, _ => True
  | .started (.walking _ position _), place => position ≤ place
  | .started .finished, _ => False

theorem Draft.next_congr {frames' : List Frame.Draft}
    (h : ∀ place, c.Ahead place →
      (frames.map Frame.Draft.targets)[place]? = (frames'.map Frame.Draft.targets)[place]?) :
    c.next frames = c.next frames' := by
  cases c with
  | waiting enabled =>
    have hfirst := h 0 trivial
    cases hread : enabled.toInts with
    | error fault => simp only [Draft.next, hread]
    | ok enabled => simp only [Draft.next, hread, start, Cursor.next, hfirst]
  | started cursor =>
    cases cursor with
    | walking enabled position previous =>
      have hplace := h position (Nat.le_refl position)
      simp only [Draft.next, Cursor.next, hplace]
    | finished => rfl

/-- A walk never goes back. -/
theorem Draft.ahead_of_ahead_next (h : (c.next frames).2.Ahead place) : c.Ahead place := by
  cases c with
  | waiting enabled => trivial
  | started cursor =>
    cases cursor with
    | walking enabled position previous =>
      simp only [Draft.next, Cursor.next] at h
      split at h
      · exact absurd h id
      · exact Nat.le_of_succ_le h
    | finished => exact absurd h id

namespace Walk

/-- Walks at the same place whose lists have the same targets from there on. -/
structure Agree (w w' : Walk) : Prop where
  cursor : w.cursor = w'.cursor
  length : w.frames.length = w'.frames.length
  ahead : ∀ place, w.cursor.Ahead place → w.targets[place]? = w'.targets[place]?

theorem targets_withTargets (values : Json) (d : Frame.Draft) :
    (withTargets values d).targets = values.toInts.toOption.getD d.targets := by
  rw [withTargets, Frame.Draft.setTargets]
  cases values.toInts <;> rfl

theorem targets_step_change (w : Walk) (places : List Nat) (values : Json) (place : Nat) :
    (w.step (.change places values)).targets[place]? =
      w.targets[place]?.map fun targets =>
        if place ∈ places then values.toInts.toOption.getD targets else targets := by
  rw [targets, targets, step, List.getElem?_map, List.getElem?_mapIdx, List.getElem?_map, Option.map_map,
    Option.map_map]
  congr 1
  funext d
  by_cases h : place ∈ places
  · simp [h, targets_withTargets]
  · simp [h]

variable {w w' : Walk}

theorem Agree.next_eq (h : w.Agree w') : w.cursor.next w.frames = w'.cursor.next w'.frames := by
  rw [← h.cursor]
  exact Draft.next_congr h.ahead

theorem Agree.step (h : w.Agree w') (event : Event) : (w.step event).Agree (w'.step event) := by
  cases event with
  | next =>
    refine ⟨by rw [Walk.step, Walk.step, h.next_eq], h.length, fun place hplace => ?_⟩
    exact h.ahead place (Draft.ahead_of_ahead_next hplace)
  | change places values =>
    refine ⟨h.cursor, by simpa [Walk.step] using h.length, fun place hplace => ?_⟩
    rw [targets_step_change, targets_step_change, h.ahead place hplace]
  | append frame =>
    refine ⟨h.cursor, by simpa [Walk.step] using h.length, fun place hplace => ?_⟩
    have hahead := h.ahead place hplace
    -- The lists are of one length, so the new frame comes to the same place in both.
    have hlength : w.targets.length = w'.targets.length := by simpa [targets] using h.length
    have happend : ∀ v : Walk, (v.step (.append frame)).targets = v.targets ++ [frame.targets] := by
      intro v
      simp [targets, Walk.step]
    rw [happend, happend, List.getElem?_append, List.getElem?_append, hahead, hlength]

theorem Agree.answers_eq (h : w.Agree w') (events : List Event) :
    (w.calls events).map Call.answer = (w'.calls events).map Call.answer := by
  induction events generalizing w w' with
  | nil => rfl
  | cons event events ih =>
    have hrest := ih (h.step event)
    cases event with
    | next => rw [calls_next, calls_next, List.map_cons, List.map_cons, h.next_eq, hrest]
    | change places values => exact hrest
    | append frame => exact hrest

theorem not_ahead_run {place : Nat} (h : ¬ w.cursor.Ahead place) (events : List Event) :
    ¬ (w.run events).cursor.Ahead place := by
  induction events generalizing w with
  | nil => exact h
  | cons event events ih =>
    cases event with
    | next => exact ih (w := w.step .next) fun hnext => h (Draft.ahead_of_ahead_next hnext)
    | change places values => exact ih (w := w.step (.change places values)) h
    | append frame => exact ih (w := w.step (.append frame)) h

/-- A place that the walk has been asked for lies behind it for good. -/
theorem not_ahead_of_lt (h : w.cursor.At enabled place previous) {events : List Event} {k : Nat}
    (hk : k < (w.calls events).length) : ¬ (w.run events).cursor.Ahead (place + k) := by
  induction events generalizing w place previous k with
  | nil => exact absurd hk (Nat.not_lt_zero k)
  | cons event events ih =>
    cases event with
    | next =>
      change ¬ ((w.step .next).run events).cursor.Ahead (place + k)
      cases hframe : w.targets[place]? with
      | none =>
        have hfinished : (w.step .next).cursor = .started .finished := by
          rw [step, h.next_of_none hframe]
        exact not_ahead_run (by rw [hfinished]; exact id) events
      | some targets =>
        have hcursor : (w.step .next).cursor = .started (.walking enabled (place + 1) (some targets)) := by
          rw [step, h.next_of_some hframe]
        have hat : (w.step .next).cursor.At enabled (place + 1) (some targets) := by
          rw [hcursor]
          exact .walking _ _
        cases k with
        | zero => exact not_ahead_run (by rw [hcursor]; exact Nat.not_succ_le_self place) events
        | succ k =>
          have hrest := ih hat (k := k) (Nat.lt_of_succ_lt_succ hk)
          rwa [Nat.add_right_comm, Nat.add_assoc] at hrest
    | change places values => exact ih (w := w.step (.change places values)) h hk
    | append frame => exact ih (w := w.step (.append frame)) h hk

theorem agree_step_change {places : List Nat} (h : ∀ place ∈ places, ¬ w.cursor.Ahead place)
    (values : Json) : (w.step (.change places values)).Agree w := by
  refine ⟨rfl, by simp [step], fun place hplace => ?_⟩
  have hnot : place ∉ places := fun hmem => h place hmem hplace
  rw [targets_step_change]
  simp [hnot]

end Walk

/-! ### The whole walk -/

variable {events : List Event}

theorem history_answer {k : Nat} {call : Call} (h : (history enabled frames events)[k]? = some call) :
    (call.answer = .ok none ∧ ∃ j ≤ k, shown (history enabled frames events) j = none) ∨
    ∃ u now, call.answer = .ok (some u) ∧
      (∀ j ≤ k, shown (history enabled frames events) j ≠ none) ∧
      shown (history enabled frames events) k = some now ∧
      Update.Compares enabled (shownBefore (history enabled frames events) k) now u := by
  have hanswer := Walk.answer_eq (w := Walk.start enabled frames) .waiting h
  change call.answer = .ok ((found 0 (history enabled frames events))[k]?.map
    (Update.between enabled (Update.before none (found 0 (history enabled frames events)) k))) at hanswer
  generalize history enabled frames events = calls at h hanswer ⊢
  have hnone : ∀ k, (found 0 calls)[k]? = none ↔ ∃ j ≤ k, shown calls j = none := by
    intro k
    simp only [getElem?_found_eq_none_iff, shownFrom_zero]
  have hsome : ∀ {k targets}, (found 0 calls)[k]? = some targets → shown calls k = some targets := by
    intro k targets hfound
    rw [← shownFrom_zero]
    exact shownFrom_of_getElem?_found hfound
  cases hfound : (found 0 calls)[k]? with
  | none => exact .inl ⟨by rw [hanswer, hfound, Option.map_none], (hnone k).mp hfound⟩
  | some now =>
    have hall : ∀ j ≤ k, shown calls j ≠ none := by
      intro j hj hshown
      have hgone := (hnone k).mpr ⟨j, hj, hshown⟩
      rw [hfound] at hgone
      cases hgone
    -- No request so far came too late, so what was found at the place before is what was shown there.
    have hbefore : Update.before none (found 0 calls) k = shownBefore calls k := by
      cases k with
      | zero => rfl
      | succ k =>
        have hlt : k < (found 0 calls).length := Nat.lt_of_succ_lt (List.getElem?_eq_some_iff.mp hfound).1
        rw [Update.before, shownBefore, hsome (List.getElem?_eq_getElem hlt), List.getElem?_eq_getElem hlt]
    refine .inr ⟨_, now, by rw [hanswer, hfound, Option.map_some], hall, hsome hfound, ?_⟩
    rw [hbefore]
    exact Update.compares_between enabled _ now

theorem history_exhausted {j k : Nat} (hjk : j ≤ k) {call later : Call}
    (hcall : (history enabled frames events)[j]? = some call) (hnone : call.answer = .ok none)
    (hlater : (history enabled frames events)[k]? = some later) : later.answer = .ok none := by
  rcases history_answer hlater with ⟨hend, _⟩ | ⟨_, _, _, hall, _⟩
  · exact hend
  · rcases history_answer hcall with ⟨_, i, hi, hshown⟩ | ⟨u, _, hsome, _⟩
    · exact absurd hshown (hall i (Nat.le_trans hi hjk))
    · rw [hnone] at hsome
      cases hsome

theorem history_change {before after : List Event} {places : List Nat}
    (h : ∀ place ∈ places, place < (history enabled frames before).length) (values : Json) :
    (history enabled frames (before ++ .change places values :: after)).map Call.answer =
      (history enabled frames (before ++ after)).map Call.answer := by
  have hbehind : ∀ place ∈ places, ¬ ((Walk.start enabled frames).run before).cursor.Ahead place := by
    intro place hplace
    have hnot := Walk.not_ahead_of_lt (w := Walk.start enabled frames) .waiting (h place hplace)
    rwa [Nat.zero_add] at hnot
  have hagree := Walk.agree_step_change hbehind values
  rw [history, history, Walk.calls_of_append, Walk.calls_of_append, List.map_append, List.map_append,
    Walk.calls_change, hagree.answers_eq]

/-- Every request gives an answer. It is the update from the frame before, as that was when it was given out,
to the frame at the place of the request, as this is now; or nothing, if this request or one before it came
when the list had no such place. Nothing follows nothing, even if frames are added. And whatever targets a
frame gets after its place was asked for, all answers stay the same. -/
theorem history_insulated (enabled : List Int) (frames : List Frame.Draft) :
    (∀ events k call, (history enabled frames events)[k]? = some call →
      (call.answer = .ok none ∧ ∃ j ≤ k, shown (history enabled frames events) j = none) ∨
      ∃ u now, call.answer = .ok (some u) ∧
        (∀ j ≤ k, shown (history enabled frames events) j ≠ none) ∧
        shown (history enabled frames events) k = some now ∧
        Update.Compares enabled (shownBefore (history enabled frames events) k) now u) ∧
    (∀ events (j k : Nat) (call later : Call), j ≤ k → (history enabled frames events)[j]? = some call →
      call.answer = .ok none → (history enabled frames events)[k]? = some later →
      later.answer = .ok none) ∧
    ∀ before after places values, (∀ place ∈ places, place < (history enabled frames before).length) →
      (history enabled frames (before ++ .change places values :: after)).map Call.answer =
        (history enabled frames (before ++ after)).map Call.answer := by
  refine ⟨fun events k call h => history_answer h, ?_, ?_⟩
  · intro events j k call later hjk hcall hnone hlater
    exact history_exhausted hjk hcall hnone hlater
  · intro before after places values h
    exact history_change h values

example : (history [0, 1] [⟨.text "a", .int 10, [1, 2]⟩, ⟨.text "b", .int 10, [1, 2]⟩]
    [.next, .change [0] (.ofInts [9, 9]), .next, .next, .append ⟨.null, .null, [3]⟩, .next]).map
      Call.answer = [.ok (some [(0, 1), (1, 2)]), .ok (some []), .ok none, .ok none] := rfl

end Cursor

end ServoScript
