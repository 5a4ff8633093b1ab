import ServoScript.Proofs.Reader

/-!
# Playing frames on the machine

A frame leaves the stack as it was, writes enabled channels only and waits once, with its own targets
on all enabled channels. The invariant from frame to frame is that the enabled channels show the frame
before, so that the channels which a frame does not write are right already. The first frame writes
all of them and needs no such thing, which is why frames can be played from any state, and again.
-/

namespace ServoScript

/-- The targets while a frame is held: its own on the enabled channels, and those from before on all
others. -/
def Frame.shown (f : Frame) (enabled : List Int) (before : Int → Int) : Int → Int :=
  fun c => if c ∈ enabled then f.target c else before c

def Frame.pause (f : Frame) (enabled : List Int) (before : Int → Int) : Pause :=
  ⟨f.duration, f.shown enabled before⟩

/-- The targets after an update has been written, from its first channel to its last. -/
def Update.write (targets : Int → Int) (u : Update) : Int → Int :=
  u.foldl (fun t p => Machine.setTarget t p.1 p.2) targets

namespace Update

theorem channels_reverse (u : Update) : channels u.reverse = u.channels.reverse :=
  List.map_reverse

theorem values_reverse (u : Update) : values u.reverse = u.values.reverse :=
  List.map_reverse

/-- Where every channel is written the same target each time, the order of writing does not matter. -/
theorem write_apply {u : Update} {g : Int → Int} (h : ∀ p ∈ u, p.2 = g p.1) (targets : Int → Int)
    (c : Int) : write targets u c = if c ∈ u.channels then g c else targets c := by
  induction u generalizing targets with
  | nil => simp [write, channels]
  | cons p u ih =>
    have hw : write targets (p :: u) = write (Machine.setTarget targets p.1 p.2) u := rfl
    have hmem : c ∈ channels (p :: u) ↔ c = p.1 ∨ c ∈ channels u := by simp [channels]
    rw [hw, ih (fun q hq => h q (List.mem_cons_of_mem _ hq))]
    by_cases hu : c ∈ channels u
    · rw [if_pos hu, if_pos (hmem.mpr (Or.inr hu))]
    · rw [if_neg hu, Machine.setTarget]
      by_cases hc : c = p.1
      · rw [if_pos hc, if_pos (hmem.mpr (Or.inl hc)), h p List.mem_cons_self, hc]
      · rw [if_neg hc, if_neg (fun hm => (hmem.mp hm).elim hc hu)]

theorem mem_between {enabled : List Int} {previous : Option (List Int)} {targets : List Int}
    {p : Int × Int} : p ∈ between enabled previous targets ↔
      p.1 ∈ enabled ∧ isNeeded previous targets p.1 = true ∧ p.2 = targetAt targets p.1 := by
  simp only [between, List.mem_map, List.mem_filter]
  constructor
  · rintro ⟨c, ⟨hc, hn⟩, rfl⟩
    exact ⟨hc, hn, rfl⟩
  · rintro ⟨hc, hn, he⟩
    exact ⟨p.1, ⟨hc, hn⟩, Prod.ext rfl he.symm⟩

theorem mem_channels_between {enabled : List Int} {previous : Option (List Int)}
    {targets : List Int} {c : Int} : c ∈ (between enabled previous targets).channels ↔
      c ∈ enabled ∧ isNeeded previous targets c = true := by
  simp [between, channels]

/-- The enabled channels show the targets of the frame before, if there is one. -/
def Follows (enabled : List Int) (previous : Option (List Int)) (targets : Int → Int) : Prop :=
  ∀ before, previous = some before → ∀ c ∈ enabled, targets c = targetAt before c

theorem Follows.first (enabled : List Int) (targets : Int → Int) : Follows enabled none targets := by
  intro before h
  cases h

theorem Follows.shown (f : Frame) (enabled : List Int) (before : Int → Int) :
    Follows enabled (some f.targets) (f.shown enabled before) := by
  intro targets h c hc
  cases h
  rw [Frame.shown, if_pos hc, Frame.target]

/-- Writing the update of a frame shows the frame. The subroutine writes from the last channel to
the first. -/
theorem write_between {enabled : List Int} {previous : Option (List Int)} {targets : Int → Int}
    (h : Follows enabled previous targets) (f : Frame) :
    write targets (between enabled previous f.targets).reverse = f.shown enabled targets := by
  funext c
  have hval : ∀ p ∈ (between enabled previous f.targets).reverse,
      p.2 = targetAt f.targets p.1 :=
    fun p hp => (mem_between.mp (List.mem_reverse.mp hp)).2.2
  have hmem : c ∈ channels (between enabled previous f.targets).reverse ↔
      c ∈ enabled ∧ isNeeded previous f.targets c = true := by
    rw [channels_reverse, List.mem_reverse]
    exact mem_channels_between
  rw [write_apply hval, Frame.shown, Frame.target]
  by_cases hc : c ∈ enabled
  · by_cases hn : isNeeded previous f.targets c = true
    · rw [if_pos (hmem.mpr ⟨hc, hn⟩), if_pos hc]
    · rw [if_neg (fun hm => hn (hmem.mp hm).2), if_pos hc]
      -- A channel is spared only if the frame before has the same target.
      cases previous with
      | none => exact absurd rfl hn
      | some before =>
        have he : targetAt f.targets c = targetAt before c := by simpa [isNeeded] using hn
        rw [h before rfl c hc, he]
  · rw [if_neg (fun hm => hc (hmem.mp hm).1), if_neg hc]

end Update

namespace Machine

open Script

variable {code : Code} {depth : Nat}

theorem exec_cons (i : Instruction) (rest : List Instruction) (m : Machine) :
    exec code depth (i :: rest) m = step (call code depth) m i >>= exec code depth rest :=
  List.foldlM_cons

theorem exec_append_of_ok {xs : List Instruction} {m m' : Machine}
    (h : exec code depth xs m = .ok m') (ys : List Instruction) :
    exec code depth (xs ++ ys) m = exec code depth ys m' := by
  have ha : exec code depth (xs ++ ys) m = exec code depth xs m >>= exec code depth ys :=
    List.foldlM_append
  rw [ha, h]
  rfl

theorem exec_pushes (values : List Int) (rest : List Instruction) (m : Machine) :
    exec code depth (values.map .push ++ rest) m =
      exec code depth rest ⟨values.reverse ++ m.stack, m.targets, m.pauses, m.writes⟩ := by
  induction values generalizing m with
  | nil => rfl
  | cons value values ih =>
    have hs : (value :: values).reverse ++ m.stack = values.reverse ++ value :: m.stack := by simp
    rw [hs]
    exact ih ⟨value :: m.stack, m.targets, m.pauses, m.writes⟩

/-- Setting channels takes their targets off the stack in the same order. -/
theorem exec_sets (u : Update) (rest : List Instruction) (stack : List Int) (targets : Int → Int)
    (pauses : List Pause) (writes : Update) :
    exec code depth (u.channels.flatMap (fun channel => [.push channel, .set]) ++ rest)
        ⟨u.values ++ stack, targets, pauses, writes⟩ =
      exec code depth rest ⟨stack, Update.write targets u, pauses, writes ++ u⟩ := by
  induction u generalizing targets writes with
  | nil => simp [Update.channels, Update.values, Update.write]
  | cons p u ih =>
    have hw : writes ++ p :: u = (writes ++ [p]) ++ u := by simp
    rw [hw]
    exact ih (setTarget targets p.1 p.2) (writes ++ [p])

/-- The subroutine of an update, called with the duration and the targets on the stack. The last
target is on top, and the channels are set from the last to the first. -/
theorem exec_setter (u : Update) (duration : Int) (stack : List Int) (targets : Int → Int)
    (pauses : List Pause) (writes : Update) :
    exec code depth (setterCode u.channels)
        ⟨u.values.reverse ++ duration :: stack, targets, pauses, writes⟩ =
      .ok ⟨stack, Update.write targets u.reverse,
        pauses ++ [⟨duration, Update.write targets u.reverse⟩], writes ++ u.reverse⟩ := by
  rw [setterCode, ← Update.channels_reverse, ← Update.values_reverse, exec_sets]
  rfl

/-- What one frame does to a machine that has its subroutine. -/
theorem exec_play {u : Update}
    (h : u ≠ [] → code.subroutine? (setterName u.channels) = some (setterCode u.channels))
    (f : Frame) (m : Machine) :
    exec code (depth + 1) (playCode f u) m =
      .ok ⟨m.stack, Update.write m.targets u.reverse,
        m.pauses ++ [⟨f.duration, Update.write m.targets u.reverse⟩],
        m.writes ++ u.reverse⟩ := by
  by_cases hu : u = []
  · subst hu
    have hw : m.writes ++ List.reverse [] = m.writes := by simp
    rw [hw]
    rfl
  · have hcode : playCode f u = (f.duration :: u.values).map .push ++
        [.call (setterName u.channels)] := by
      simp [playCode, hu]
    have hstack : (f.duration :: u.values).reverse ++ m.stack =
        u.values.reverse ++ f.duration :: m.stack := by simp
    rw [hcode, exec_pushes, hstack, exec_cons]
    change call code (depth + 1) (setterName u.channels) _ >>= _ = _
    rw [call, h hu]
    change exec code depth (setterCode u.channels) _ >>= _ = _
    rw [exec_setter]
    rfl

/-- A run that plays frames: the stack is as it was, every frame is held once and in order, and
no channel is written that is not enabled. -/
structure Plays (enabled : List Int) (frames : List Frame) (m m' : Machine) : Prop where
  stack : m'.stack = m.stack
  pauses : m'.pauses = m.pauses ++ frames.map fun f => f.pause enabled m.targets
  others : ∀ c, c ∉ enabled → m'.targets c = m.targets c
  writes : ∃ u : Update, m'.writes = m.writes ++ u ∧ ∀ c ∈ u.channels, c ∈ enabled

namespace Plays

variable {enabled : List Int} {m m' m'' : Machine}

theorem refl (enabled : List Int) (m : Machine) : Plays enabled [] m m where
  stack := rfl
  pauses := by simp
  others _ _ := rfl
  writes := ⟨[], by simp, fun _ hc => absurd hc List.not_mem_nil⟩

theorem trans {frames more : List Frame} (h : Plays enabled frames m m')
    (h' : Plays enabled more m' m'') : Plays enabled (frames ++ more) m m'' where
  stack := h'.stack.trans h.stack
  pauses := by
    have hp : ∀ f : Frame, f.pause enabled m'.targets = f.pause enabled m.targets := by
      intro f
      have hs : f.shown enabled m'.targets = f.shown enabled m.targets := by
        funext c
        by_cases hc : c ∈ enabled
        · simp only [Frame.shown, if_pos hc]
        · simp only [Frame.shown, if_neg hc, h.others c hc]
      rw [Frame.pause, hs, Frame.pause]
    rw [h'.pauses, h.pauses, List.map_append, List.append_assoc]
    simp only [hp]
  others c hc := (h'.others c hc).trans (h.others c hc)
  writes := by
    obtain ⟨u, hu, hmem⟩ := h.writes
    obtain ⟨u', hu', hmem'⟩ := h'.writes
    refine ⟨u ++ u', by rw [hu', hu, List.append_assoc], ?_⟩
    intro c hc
    rw [Update.channels, List.map_append, List.mem_append] at hc
    exact hc.elim (hmem c) (hmem' c)

end Plays

/-- One frame is played, and leaves the enabled channels as the next one expects them. -/
theorem exec_frame {enabled : List Int} {previous : Option (List Int)} {f : Frame} {m : Machine}
    (hm : Update.Follows enabled previous m.targets)
    (h : Update.between enabled previous f.targets ≠ [] →
      code.subroutine? (setterName (Update.between enabled previous f.targets).channels) =
        some (setterCode (Update.between enabled previous f.targets).channels)) :
    ∃ m', exec code (depth + 1) (playCode f (Update.between enabled previous f.targets)) m =
        .ok m' ∧
      Plays enabled [f] m m' ∧ Update.Follows enabled (some f.targets) m'.targets := by
  refine ⟨_, exec_play h f m, ?_, ?_⟩
  · rw [Update.write_between hm]
    refine ⟨rfl, rfl, fun c hc => if_neg hc, _, rfl, ?_⟩
    intro c hc
    rw [Update.channels_reverse, List.mem_reverse] at hc
    exact (Update.mem_channels_between.mp hc).1
  · rw [Update.write_between hm]
    exact Update.Follows.shown f enabled m.targets

/-- Frames are played one after the other. The induction carries the frame before. -/
theorem exec_frames {enabled : List Int} {previous : Option (List Int)} {frames : List Frame}
    {m : Machine} (hm : Update.Follows enabled previous m.targets)
    (h : ∀ u ∈ Update.along enabled previous (frames.map Frame.targets), u ≠ [] →
      code.subroutine? (setterName u.channels) = some (setterCode u.channels)) :
    ∃ m', exec code (depth + 1)
        ((frames.zip (Update.along enabled previous (frames.map Frame.targets))).flatMap
          fun p => playCode p.1 p.2) m = .ok m' ∧
      Plays enabled frames m m' := by
  induction frames generalizing previous m with
  | nil => exact ⟨m, rfl, Plays.refl enabled m⟩
  | cons f frames ih =>
    rw [List.map_cons, Update.along] at h ⊢
    obtain ⟨m₁, hrun, hplays, hm₁⟩ := exec_frame hm (h _ List.mem_cons_self)
    obtain ⟨m', hrest, hplays'⟩ := ih hm₁ (fun u hu => h u (List.mem_cons_of_mem _ hu))
    refine ⟨m', ?_, hplays.trans hplays'⟩
    rw [List.zip_cons_cons, List.flatMap_cons, exec_append_of_ok hrun, hrest]

/-- The frames of a sequence are played from any state, given the subroutines that they need. -/
theorem exec_sequenceCode {enabled : List Int} {frames : List Frame}
    (h : ∀ channels ∈ neededLists enabled frames,
      code.subroutine? (setterName channels) = some (setterCode channels)) (m : Machine) :
    ∃ m', exec code (depth + 1) (sequenceCode enabled frames) m = .ok m' ∧
      Plays enabled frames m m' := by
  apply exec_frames (Update.Follows.first enabled m.targets)
  intro u hu hne
  exact h u.channels ((mem_neededLists enabled).mpr ⟨u, hu, hne, rfl⟩)

end Machine

end ServoScript
