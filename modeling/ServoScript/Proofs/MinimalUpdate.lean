import Mathlib.Data.List.Nodup
import Mathlib.Data.List.Perm.Subperm
import ServoScript.Proofs.Playback

/-!
# The update of a frame is the least one

An update is written to a device, which is a map from channels to targets. Written to a device that
shows the frame before, the update of a frame makes it show the frame. Whatever else does so writes all
channels of the update: a channel is in it only if the two frames differ there, and a channel that is
not written stays as it was. So the update is as short as can be, and up to its order the only one that
is as short.
-/

namespace ServoScript.Update

/-! ### Writing to a device -/

theorem write_of_not_mem {w : Update} {c : Int} (h : c ∉ w.channels) (device : Int → Int) :
    write device w c = device c := by
  induction w generalizing device with
  | nil => rfl
  | cons p w ih =>
    simp only [channels, List.map_cons, List.mem_cons, not_or] at h
    have hw : write device (p :: w) = write (Machine.setTarget device p.1 p.2) w := rfl
    rw [hw, ih h.2, Machine.setTarget, if_neg h.1]

/-- A channel that is written once has the target that is written to it. -/
theorem write_of_mem {w : Update} (hnodup : w.channels.Nodup) {p : Int × Int} (hp : p ∈ w)
    (device : Int → Int) : write device w p.1 = p.2 := by
  induction w generalizing device with
  | nil => exact absurd hp List.not_mem_nil
  | cons q w ih =>
    simp only [channels, List.map_cons, List.nodup_cons] at hnodup
    have hw : write device (q :: w) = write (Machine.setTarget device q.1 q.2) w := rfl
    rw [hw]
    rcases List.mem_cons.mp hp with rfl | hp
    · rw [write_of_not_mem hnodup.1, Machine.setTarget, if_pos rfl]
    · exact ih hnodup.2 hp _

/-! ### The updates along frames -/

variable {enabled : List Int}

def before (previous : Option (List Int)) (l : List (List Int)) : Nat → Option (List Int)
  | 0 => previous
  | k + 1 => l[k]?

theorem getElem?_along (enabled : List Int) (previous : Option (List Int)) {l : List (List Int)}
    {k : Nat} {targets : List Int} (h : l[k]? = some targets) :
    (along enabled previous l)[k]? = some (between enabled (before previous l k) targets) := by
  induction l generalizing previous k with
  | nil => simp at h
  | cons first l ih =>
    cases k with
    | zero =>
      have hfirst : first = targets := by simpa using h
      rw [hfirst]
      rfl
    | succ k =>
      have hrest : l[k]? = some targets := by simpa using h
      rw [along, List.getElem?_cons_succ, ih (some first) hrest]
      cases k with
      | zero => rfl
      | succ k => rfl

/-! ### The update between two frames -/

theorem nodup_channels_between (hnodup : enabled.Nodup) (previous : Option (List Int))
    (targets : List Int) : (between enabled previous targets).channels.Nodup :=
  hnodup.sublist (channels_between_sublist enabled previous targets)

theorem write_between_apply {previous : Option (List Int)} {device : Int → Int}
    (h : Follows enabled previous device) (f : Frame) (c : Int) :
    write device (between enabled previous f.targets) c =
      if c ∈ enabled then f.target c else device c := by
  have hvalue : ∀ p ∈ between enabled previous f.targets, p.2 = targetAt f.targets p.1 :=
    fun p hp => (mem_between.mp hp).2.2
  have hreverse := congrFun (write_between h f) c
  rw [Frame.shown, write_apply fun p hp => hvalue p (List.mem_reverse.mp hp), channels_reverse] at hreverse
  rw [← hreverse, write_apply hvalue]
  simp only [List.mem_reverse]

/-- Whatever shows the next frame writes the channels in which the two frames differ. -/
theorem mem_channels_of_shows {targets : List Int} {f : Frame} {device : Int → Int}
    (h : Follows enabled (some targets) device) {w : Update}
    (hw : ∀ c ∈ enabled, write device w c = f.target c) {c : Int}
    (hc : c ∈ (between enabled (some targets) f.targets).channels) : c ∈ w.channels := by
  obtain ⟨henabled, hneeded⟩ := mem_channels_between.mp hc
  have hdiffers : f.target c ≠ targetAt targets c := by simpa [isNeeded, Frame.target] using hneeded
  by_contra hnot
  apply hdiffers
  rw [← hw c henabled, write_of_not_mem hnot, h targets rfl c henabled]

/-- A list of writes that is as short as the update consists of the same writes. -/
theorem perm_of_shows {targets : List Int} {f : Frame} {device : Int → Int} (hnodup : enabled.Nodup)
    (h : Follows enabled (some targets) device) {w : Update}
    (hw : ∀ c ∈ enabled, write device w c = f.target c)
    (hlength : w.length = (between enabled (some targets) f.targets).length) :
    w.Perm (between enabled (some targets) f.targets) := by
  have hu := nodup_channels_between hnodup (some targets) f.targets
  have hsub : (between enabled (some targets) f.targets).channels ⊆ w.channels :=
    fun c hc => mem_channels_of_shows h hw hc
  have hperm : (between enabled (some targets) f.targets).channels.Perm w.channels :=
    (hu.subperm hsub).perm_of_length_le (by simp [channels, hlength])
  have hwnodup : w.channels.Nodup := hperm.nodup_iff.mp hu
  rw [List.perm_ext_iff_of_nodup (List.Nodup.of_map _ hwnodup) (List.Nodup.of_map _ hu)]
  -- Both lists write each of the same channels once, and each writes the target of the frame to it.
  have htarget : ∀ p ∈ w, p.1 ∈ enabled ∧ isNeeded (some targets) f.targets p.1 = true ∧
      p.2 = f.target p.1 := by
    intro p hp
    have hmem : p.1 ∈ w.channels := List.mem_map_of_mem hp
    obtain ⟨henabled, hneeded⟩ := mem_channels_between.mp (hperm.mem_iff.mpr hmem)
    refine ⟨henabled, hneeded, ?_⟩
    rw [← hw p.1 henabled, write_of_mem hwnodup hp]
  intro p
  constructor
  · intro hp
    exact mem_between.mpr (htarget p hp)
  · intro hp
    obtain ⟨_, _, hvalue⟩ := mem_between.mp hp
    obtain ⟨q, hq, hchannel⟩ := List.mem_map.mp (hsub (List.mem_map_of_mem hp))
    have hpq : p = q := by
      refine Prod.ext hchannel.symm ?_
      rw [hvalue, (htarget q hq).2.2, hchannel, Frame.target]
    rwa [hpq]

theorem follows_before {frames : List Frame} {k : Nat} {device : Int → Int}
    (h : ∀ j g, j + 1 = k → frames[j]? = some g → ∀ c ∈ enabled, device c = g.target c) :
    Follows enabled (before none (frames.map Frame.targets) k) device := by
  intro targets htargets c hc
  cases k with
  | zero => cases htargets
  | succ j =>
    rw [before, List.getElem?_map, Option.map_eq_some_iff] at htargets
    obtain ⟨g, hg, rfl⟩ := htargets
    exact h j g rfl hg c hc

/-- There is one update for each frame. It writes some of the enabled channels, in their order. Written to
any device that shows the frame before on the enabled channels, or to any device at all if there is no
frame before, it gives the enabled channels the targets of the frame and leaves the others alone. If
there is a frame before, every list of writes that gives the enabled channels these targets on such a
device writes all channels of the update, is no shorter, and if it is as short, is the update up to its
order. -/
theorem ofFrames_minimal (hnodup : enabled.Nodup) (frames : List Frame) :
    (ofFrames enabled frames).length = frames.length ∧
    ∀ k f, frames[k]? = some f → ∃ u, (ofFrames enabled frames)[k]? = some u ∧
      u.channels.Sublist enabled ∧ u.values.length = u.channels.length ∧
      ∀ device : Int → Int,
        (∀ j g, j + 1 = k → frames[j]? = some g → ∀ c ∈ enabled, device c = g.target c) →
        (∀ c, write device u c = if c ∈ enabled then f.target c else device c) ∧
        (k ≠ 0 → ∀ w : Update, (∀ c ∈ enabled, write device w c = f.target c) →
          (∀ c ∈ u.channels, c ∈ w.channels) ∧ u.length ≤ w.length ∧
          (w.length = u.length → w.Perm u)) := by
  refine ⟨by rw [ofFrames, length_along, List.length_map], fun k f hf => ?_⟩
  have htargets : (frames.map Frame.targets)[k]? = some f.targets := by
    rw [List.getElem?_map, hf, Option.map_some]
  refine ⟨_, getElem?_along enabled none htargets, channels_between_sublist enabled _ _,
    by simp [values, channels], fun device hdevice => ?_⟩
  have hfollows := follows_before hdevice
  refine ⟨write_between_apply hfollows f, fun hk w hw => ?_⟩
  obtain ⟨j, rfl⟩ := Nat.exists_eq_succ_of_ne_zero hk
  obtain ⟨g, hg⟩ : ∃ g, frames[j]? = some g := by
    have hlt := (List.getElem?_eq_some_iff.mp hf).1
    exact ⟨_, List.getElem?_eq_getElem (Nat.lt_of_succ_lt hlt)⟩
  have hbefore : before none (frames.map Frame.targets) (j + 1) = some g.targets := by
    rw [before, List.getElem?_map, hg, Option.map_some]
  rw [hbefore] at hfollows ⊢
  have hsub : ∀ c ∈ (between enabled (some g.targets) f.targets).channels, c ∈ w.channels :=
    fun c hc => mem_channels_of_shows hfollows hw hc
  have hle : (between enabled (some g.targets) f.targets).length ≤ w.length := by
    have hsubperm := (nodup_channels_between hnodup (some g.targets) f.targets).subperm hsub
    simpa [channels] using hsubperm.length_le
  exact ⟨hsub, hle, fun hlength => perm_of_shows hnodup hfollows hw hlength⟩

/-- Two frames that differ in one of three enabled channels. Of the others, one has a target in neither
frame and one is negative. -/
theorem ofFrames_minimal_pair : ([2, 0, -1] : List Int).Nodup ∧
    (ofFrames [2, 0, -1] [⟨"A", 0, [7, 8]⟩, ⟨"B", 0, [9]⟩])[1]? = some [(0, 9)] ∧
    ∀ w : Update, (∀ c ∈ ([2, 0, -1] : List Int), write (targetAt [7, 8]) w c = targetAt [9] c) →
      0 ∈ w.channels ∧ 1 ≤ w.length := by
  refine ⟨by decide, by decide, fun w hw => ?_⟩
  obtain ⟨u, hu, _, _, hwrite⟩ := (@ofFrames_minimal [2, 0, -1] (by decide)
    [⟨"A", 0, [7, 8]⟩, ⟨"B", 0, [9]⟩]).2 1 ⟨"B", 0, [9]⟩ rfl
  have hone : u = [(0, 9)] := Option.some.inj (hu.symm.trans (by decide))
  subst hone
  obtain ⟨hmem, hle, _⟩ := (hwrite (targetAt [7, 8]) (by
    rintro j g hj hg c _
    obtain rfl : j = 0 := by omega
    cases hg
    rfl)).2 (by decide) w hw
  exact ⟨hmem 0 (by decide), hle⟩

end ServoScript.Update
