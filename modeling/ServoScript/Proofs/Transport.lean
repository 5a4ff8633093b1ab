import Mathlib.Data.List.Forall2
import ServoScript.Proofs.Answers
import ServoScript.Proofs.StoreRoundTrip

/-!
# Transports keep the motion

Neither the store nor the clipboard keeps all targets of a frame. But scripts read the targets of enabled
channels only, and these lie below the number of channels up to which both transports keep targets. Frames
are alike if they differ in other targets at most; alike sessions tell the same about their sequences and
make the same scripts. What is saved and loaded again is alike to what it was.
-/

namespace ServoScript

/-- Frames with the same targets of the enabled channels. -/
def Frame.SameTargets (enabled : List Int) (f g : Frame) : Prop :=
  ∀ c ∈ enabled, f.target c = g.target c

/-- Frames that differ in targets of other channels at most. -/
structure Frame.Alike (enabled : List Int) (f g : Frame) : Prop where
  name : f.name = g.name
  duration : f.duration = g.duration
  targets : f.SameTargets enabled g

structure Sequence.Alike (enabled : List Int) (s s' : Sequence) : Prop where
  name : s.name = s'.name
  frames : List.Forall₂ (Frame.Alike enabled) s.frames s'.frames

variable {enabled : List Int}

theorem Frame.Alike.printable {f g : Frame} (h : f.Alike enabled g) (hf : f.Printable enabled) :
    g.Printable enabled where
  duration := h.duration ▸ hf.duration
  channels := hf.channels
  targets c hc := h.targets c hc ▸ hf.targets c hc

theorem Frame.Alike.symm {f g : Frame} (h : f.Alike enabled g) : g.Alike enabled f where
  name := h.name.symm
  duration := h.duration.symm
  targets c hc := (h.targets c hc).symm

theorem Sequence.Alike.printable_iff {s s' : Sequence} (h : s.Alike enabled s') :
    s.Printable enabled ↔ s'.Printable enabled :=
  forall_mem_iff_of_forall₂ h.frames fun _ _ hf => ⟨hf.printable, hf.symm.printable⟩

/-! ### Updates -/

namespace Update

theorem between_congr {previous previous' : Option Frame}
    (hp : Option.Rel (Frame.SameTargets enabled) previous previous') {f g : Frame}
    (h : f.SameTargets enabled g) :
    between enabled (previous.map Frame.targets) f.targets =
      between enabled (previous'.map Frame.targets) g.targets := by
  have hneeded : ∀ c ∈ enabled, isNeeded (previous.map Frame.targets) f.targets c =
      isNeeded (previous'.map Frame.targets) g.targets c := by
    intro c hc
    have htarget : targetAt f.targets c = targetAt g.targets c := h c hc
    cases hp with
    | none => rfl
    | some hbefore =>
      have hlast : targetAt _ c = targetAt _ c := hbefore c hc
      simp only [isNeeded, Option.map_some, htarget, hlast]
  rw [between, between, List.filter_congr hneeded]
  apply List.map_congr_left
  intro c hc
  have htarget : targetAt f.targets c = targetAt g.targets c := h c (List.mem_filter.mp hc).1
  rw [htarget]

theorem along_congr {previous previous' : Option Frame}
    (hp : Option.Rel (Frame.SameTargets enabled) previous previous') {frames frames' : List Frame}
    (h : List.Forall₂ (Frame.SameTargets enabled) frames frames') :
    along enabled (previous.map Frame.targets) (frames.map Frame.targets) =
      along enabled (previous'.map Frame.targets) (frames'.map Frame.targets) := by
  induction h generalizing previous previous' with
  | nil => rfl
  | cons hfirst _ ih =>
    rw [List.map_cons, List.map_cons, along, along, between_congr hp hfirst]
    exact congrArg _ (ih (.some hfirst))

/-- Updates depend on the targets of the enabled channels only. -/
theorem ofFrames_congr {frames frames' : List Frame}
    (h : List.Forall₂ (Frame.SameTargets enabled) frames frames') :
    ofFrames enabled frames = ofFrames enabled frames' :=
  along_congr .none h

end Update

/-! ### Scripts -/

namespace Script

variable {frames frames' : List Frame} {sequences sequences' : List Sequence}

theorem updates_congr (h : List.Forall₂ (Frame.Alike enabled) frames frames') :
    Update.ofFrames enabled frames = Update.ofFrames enabled frames' :=
  Update.ofFrames_congr (h.imp fun _ _ hfg => hfg.targets)

theorem playLines_congr (width : LineWidth) {f g : Frame} (h : f.Alike enabled g) (u : Update) :
    playLines width f u = playLines width g u := by
  simp only [playLines, h.name, h.duration]

theorem sequenceLines_congr (width : LineWidth)
    (h : List.Forall₂ (Frame.Alike enabled) frames frames') :
    sequenceLines enabled width frames = sequenceLines enabled width frames' := by
  rw [sequenceLines, sequenceLines, updates_congr h,
    flatMap_zip_congr h fun f g u hfg => playLines_congr width hfg u]

theorem neededLists_congr (h : List.Forall₂ (Frame.Alike enabled) frames frames') :
    neededLists enabled frames = neededLists enabled frames' := by
  rw [neededLists, neededLists, updates_congr h]

theorem setterLists_congr (h : List.Forall₂ (Sequence.Alike enabled) sequences sequences') :
    setterLists enabled sequences = setterLists enabled sequences' := by
  have hlists : sequences.map (fun s => neededLists enabled s.frames) =
      sequences'.map (fun s => neededLists enabled s.frames) :=
    map_eq_of_forall₂ h fun s s' hs => neededLists_congr hs.frames
  simp only [setterLists, List.flatMap_def, hlists]

theorem assembledLines_congr (width : LineWidth)
    (h : List.Forall₂ (Sequence.Alike enabled) sequences sequences') :
    assembledLines enabled width sequences = assembledLines enabled width sequences' := by
  have hlines : sequences.map
        (fun s => subroutineLines s.name (sequenceLines enabled width s.frames)) =
      sequences'.map (fun s => subroutineLines s.name (sequenceLines enabled width s.frames)) :=
    map_eq_of_forall₂ h fun s s' hs => by rw [hs.name, sequenceLines_congr width hs.frames]
  simp only [assembledLines, setterLists_congr h, List.flatMap_def, hlines]

theorem loopLines_congr (width : LineWidth) {s s' : Sequence} (h : s.Alike enabled s') :
    loopLines enabled width s = loopLines enabled width s' := by
  rw [loopLines, loopLines, h.name, sequenceLines_congr width h.frames, setterLists_congr (.cons h .nil)]

theorem looped_congr (width : LineWidth) {s s' : Sequence} (h : s.Alike enabled s') :
    looped enabled width s = looped enabled width s' := by
  by_cases hs : s.Printable enabled
  · rw [looped_eq width hs, looped_eq width (h.printable_iff.mp hs), loopLines_congr width h]
  · rw [looped_eq_error width hs, looped_eq_error width fun hs' => hs (h.printable_iff.mpr hs')]

theorem compiled_congr (width : LineWidth) {s s' : Sequence} (h : s.Alike enabled s') :
    Compiled.ofSequence enabled width s = Compiled.ofSequence enabled width s' := by
  have hlists : setterLists enabled [s] = setterLists enabled [s'] :=
    setterLists_congr (.cons h .nil)
  by_cases hs : s.Printable enabled
  · rw [compiled_eq width hs, compiled_eq width (h.printable_iff.mp hs), loopLines_congr width h, hlists,
      h.name, h.frames.length_eq]
  · rw [compiled_eq_error width hs, compiled_eq_error width fun hs' => hs (h.printable_iff.mpr hs')]

theorem program_congr (width : LineWidth)
    (h : List.Forall₂ (Sequence.Alike enabled) sequences sequences') :
    program enabled width sequences = program enabled width sequences' := by
  have hiff := forall_mem_iff_of_forall₂ h fun _ _ hs => hs.printable_iff
  by_cases hs : ∀ s ∈ sequences, s.Printable enabled
  · rw [program_eq width hs, program_eq width (hiff.mp hs), assembledLines_congr width h]
  · rw [program_eq_error width hs, program_eq_error width fun hs' => hs (hiff.mpr hs')]

end Script

/-! ### Sessions -/

theorem Sequence.Alike.summary_eq {s s' : Sequence} (h : s.Alike enabled s') :
    s.summary = s'.summary := by
  have hdurations : s.frames.map Frame.duration = s'.frames.map Frame.duration :=
    map_eq_of_forall₂ h.frames fun f g hfg => hfg.duration
  rw [Sequence.summary, Sequence.summary, Sequence.duration, Sequence.duration, hdurations, h.name,
    h.frames.length_eq]

/-- Alike sequences stand at the same index. -/
theorem Session.sequenceAt_congr {s s' : Session} {R : Sequence → Sequence → Prop}
    (h : List.Forall₂ R s.sequences s'.sequences) (index : Int) :
    (s.sequenceAt index = .error .noSequence ∧ s'.sequenceAt index = .error .noSequence) ∨
      ∃ a b, s.sequenceAt index = .ok a ∧ s'.sequenceAt index = .ok b ∧ R a b := by
  cases index with
  | negSucc n => exact .inl ⟨rfl, rfl⟩
  | ofNat n =>
    have hlength := h.length_eq
    by_cases hn : n < s.sequences.length
    · have hn' : n < s'.sequences.length := hlength ▸ hn
      exact .inr ⟨_, _, by simp [sequenceAt, sequenceAt?, hn], by simp [sequenceAt, sequenceAt?, hn'],
        h.get hn hn'⟩
    · have hn' : ¬ n < s'.sequences.length := hlength ▸ hn
      exact .inl ⟨by simp [sequenceAt, sequenceAt?, hn], by simp [sequenceAt, sequenceAt?, hn']⟩

/-- The operations that tell about sequences without their targets. -/
def Operation.isReport : Operation → Bool
  | .list => true
  | .loopedScript _ => true
  | .subroutineListing => true
  | _ => false

namespace Workspace

open Procedure (bind_of_ok bind_of_refused loadedConfig_of_some sequenceAt_of_ok sequenceAt_apply)

variable [Memory]

def report (w : Workspace) (operation : Operation) : Except Fault (Except Refusal Json) :=
  (w.run operation).1.map fun result => result.map Answer.toJson

/-- Workspaces with the same configuration and alike sequences report the same. -/
theorem report_congr {w w' : Workspace} {config : Config} (hc : w.session.config = some config)
    (hc' : w'.session.config = some config)
    (h : List.Forall₂ (Sequence.Alike config.table.enabled) w.session.sequences w'.session.sequences)
    {operation : Operation} (hop : operation.isReport = true) :
    w.report operation = w'.report operation := by
  cases operation with
  | list =>
    have hsummaries : w.session.sequences.map Sequence.summary =
        w'.session.sequences.map Sequence.summary := map_eq_of_forall₂ h fun _ _ hs => hs.summary_eq
    have hlist : ∀ sequences : List Sequence, (Answer.list sequences).toJson =
        .list ((sequences.map Sequence.summary).zipIdx.map
          fun entry => .object (("index", .int entry.2) :: entry.1)) := by
      intro sequences
      rw [Answer.toJson, List.zipIdx_map, List.map_map]
      rfl
    change Except.ok (Except.ok (Answer.list w.session.sequences).toJson) =
      Except.ok (Except.ok (Answer.list w'.session.sequences).toJson)
    rw [hlist, hlist, hsummaries]
  | loopedScript index =>
    rw [report, report, run, run, Operation.perform, bind_of_ok (loadedConfig_of_some hc),
      bind_of_ok (loadedConfig_of_some hc')]
    rcases Session.sequenceAt_congr h index with ⟨hnone, hnone'⟩ | ⟨s, s', hs, hs', halike⟩
    · rw [bind_of_refused (by rw [sequenceAt_apply, hnone]),
        bind_of_refused (by rw [sequenceAt_apply, hnone'])]
    · rw [bind_of_ok (sequenceAt_of_ok hs), bind_of_ok (sequenceAt_of_ok hs'),
        Script.compiled_congr config.width halike]
      cases Compiled.ofSequence config.table.enabled config.width s' <;> rfl
  | subroutineListing =>
    rw [report, report, run, run, Operation.perform, bind_of_ok (loadedConfig_of_some hc),
      bind_of_ok (loadedConfig_of_some hc'), bind_of_ok (rfl : Procedure.workspace w = (.ok (.ok w), w)),
      bind_of_ok (rfl : Procedure.workspace w' = (.ok (.ok w'), w'))]
    simp only [Script.program_congr config.width h, h.length_eq]
    cases Script.program config.table.enabled config.width w'.session.sequences <;> rfl
  | _ => exact absurd hop (by simp [Operation.isReport])

end Workspace

/-! ### What transports keep -/

theorem targetAt_take {targets : List Int} {n : Nat} {c : Int} (h : c < n) :
    targetAt (targets.take n) c = targetAt targets c := by
  cases c with
  | negSucc k => rfl
  | ofNat k =>
    have hlt : k < n := Int.ofNat_lt.mp h
    simp [targetAt, hlt]

theorem targetAt_append_zeros (targets : List Int) (n : Nat) (c : Int) :
    targetAt (targets ++ List.replicate n 0) c = targetAt targets c := by
  cases c with
  | negSucc k => rfl
  | ofNat k =>
    simp only [targetAt, List.getD_eq_getElem?_getD]
    by_cases hlt : k < targets.length
    · rw [List.getElem?_append_left hlt]
    · rw [List.getElem?_append_right (Nat.le_of_not_lt hlt),
        List.getElem?_eq_none (Nat.le_of_not_lt hlt), List.getElem?_replicate]
      split_ifs <;> rfl

theorem Frame.alike_resized {n : Nat} (h : ∀ c ∈ enabled, c < n) (f : Frame) :
    f.Alike enabled (f.resized n) where
  name := rfl
  duration := rfl
  targets c hc := by
    change targetAt f.targets c = targetAt (f.targets.take n ++ _) c
    rw [targetAt_append_zeros, targetAt_take (h c hc)]

theorem Sequence.alike_resized {n : Nat} (h : ∀ c ∈ enabled, c < n) (s : Sequence) :
    s.Alike enabled (s.resized n) where
  name := rfl
  frames := by
    rw [Sequence.resized, List.forall₂_map_right_iff, List.forall₂_same]
    exact fun f _ => Frame.alike_resized h f

theorem Clipboard.sameTargets_carried {n : Nat} (h : ∀ c ∈ enabled, c < n) (f : Frame) :
    (carried (some n) f).SameTargets enabled f := by
  intro c hc
  change targetAt (f.targets.take n) c = targetAt f.targets c
  exact targetAt_take (h c hc)

namespace Workspace

open Procedure (bind_of_ok bind_apply loadedConfig_of_some sequenceAt_of_ok save_of_ok save_of_error)

variable {w saved : Workspace} {config : Config}

/-- The workspace with the halves joined in all names of sequences and frames. -/
def joinHalves (w : Workspace) : Workspace :=
  w.withSession ⟨w.session.config, w.session.sequences.map Sequence.joinHalves⟩

theorem joinHalves_eq_self (h : ∀ s ∈ w.session.sequences, s.IsJoined) : w.joinHalves = w := by
  rw [joinHalves, map_eq_self fun s hs => Sequence.joinHalves_eq_self (h s hs)]
  rfl

theorem sound_joinHalves (h : w.session.Sound) : w.joinHalves.session.Sound where
  fits := Sequence.forall_frames_joinHalves (fun _ hf => ⟨⟨hf.duration, hf.targets⟩, hf.length_le⟩) h.fits
  loaded hne := h.loaded fun hnil => hne (by rw [joinHalves, hnil]; rfl)
  config := h.config

section

variable [Memory]

theorem run_saveSequences_eq_ok {answer : Answer}
    (h : w.run .saveSequences = (.ok (.ok answer), saved)) :
    saved.session = w.session ∧ Store.save w.session.sequences w.storeFile = .ok saved.storeFile := by
  rw [run, Operation.perform] at h
  cases hs : Store.save w.session.sequences w.storeFile with
  | ok file =>
    rw [bind_of_ok (save_of_ok hs)] at h
    cases h
    exact ⟨rfl, rfl⟩
  | error fault =>
    rw [bind_apply, save_of_error hs] at h
    split_ifs at h
    · cases h
    · cases h

/-- Sequences that were saved are loaded with as many targets as there are channels. -/
theorem run_loadSequences (hsound : w.session.Sound) (hc : w.session.config = some config)
    (hsession : saved.session = w.session)
    (hsaved : Store.save w.session.sequences w.storeFile = .ok saved.storeFile) :
    saved.run .loadSequences = (.ok (.ok .done), saved.withSession ⟨some config,
      (w.session.sequences.map Sequence.joinHalves).map (Sequence.resized config.table.size)⟩) := by
  have hrange : ∀ s ∈ w.session.sequences, ∀ f ∈ s.frames, f.InRange :=
    fun s hs f hf => (hsound.fits s hs f hf).toInRange
  have hread := Store.read_save_of_room hrange hsaved (lt_items (hsound.config config hc).size_le)
  have hloaded : saved.session.config = some config := by rw [hsession, hc]
  rw [run, Operation.perform, bind_of_ok (loadedConfig_of_some hloaded),
    bind_of_ok (rfl : Procedure.workspace saved = (.ok (.ok saved), saved)), hread]
  change ((Except.ok (Except.ok Answer.done), saved.withSession ⟨saved.session.config, _⟩) :
    Except Fault (Except Refusal Answer) × Workspace) = _
  rw [hloaded]

theorem run_exportClipboard {index : Int} {s : Sequence} (h : w.session.sequenceAt index = .ok s) :
    w.run (.exportClipboard index) = (.ok (.ok (.clipboard (Clipboard.encode s.frames))), w) :=
  bind_of_ok (sequenceAt_of_ok h)

/-- Importing into an empty sequence makes the frames of the text its own. -/
theorem run_importClipboard (hc : w.session.config = some config) {index : Int} {name : Text}
    (h : w.session.sequenceAt index = .ok ⟨name, []⟩) (t : Text) :
    ∃ after, w.run (.importClipboard index t) =
        (.ok (.ok (.imported ⟨name, Clipboard.decode (some config.table.size) t⟩
          (Clipboard.decode (some config.table.size) t).length)), after) ∧
      after.session.sequenceAt index = .ok ⟨name, Clipboard.decode (some config.table.size) t⟩ := by
  obtain ⟨before, behind, hheld, rfl⟩ := Session.sequenceAt_eq_ok h
  refine ⟨_, run_importClipboard_of_held hc hheld t, ?_⟩
  simp [withSession, Session.sequenceAt, Session.sequenceAt?]

/-- In every workspace that is reached from a fresh session and has a configuration, whatever the sequences
were made under: once they could be saved, loading them again changes nothing that is told about them,
neither their list nor the script and the summary of any of them nor the program of all. Only names that have
the halves of a character apart are told with the character. And a text that is exported from a sequence,
imported into an empty one under the same configuration, gives it as many frames, with the same durations in
order and the same updates of the enabled channels. -/
theorem reached_transport (configFile storeFile : File) (events : List Event) {config : Config}
    (hconfig : (reached configFile storeFile events).session.config = some config) :
    let w := reached configFile storeFile events
    (∀ answer saved, w.run .saveSequences = (.ok (.ok answer), saved) →
      ∃ loaded, saved.run .loadSequences = (.ok (.ok .done), loaded) ∧
        ∀ operation, operation.isReport = true → ∃ result,
          w.joinHalves.report operation = .ok result ∧ loaded.report operation = .ok result ∧
          ((∀ s ∈ w.session.sequences, s.IsJoined) → w.report operation = .ok result)) ∧
    ∀ index s, w.session.sequenceAt index = .ok s →
      ∃ t, w.run (.exportClipboard index) = (.ok (.ok (.clipboard t)), w) ∧
        ∀ v : Workspace, v.session.config = some config → ∀ place name,
          v.session.sequenceAt place = .ok ⟨name, []⟩ →
          ∃ frames after,
            v.run (.importClipboard place t) =
              (.ok (.ok (.imported ⟨name, frames⟩ frames.length)), after) ∧
            after.session.sequenceAt place = .ok ⟨name, frames⟩ ∧
            frames.length = s.frames.length ∧
            frames.map Frame.duration = s.frames.map Frame.duration ∧
            Update.ofFrames config.table.enabled frames =
              Update.ofFrames config.table.enabled s.frames := by
  intro w
  have hsound : w.session.Sound := foldl_meet_sound Session.Sound.ofFresh events
  have hwithin : ∀ c ∈ config.table.enabled, c < config.table.size :=
    fun c hc => ((hsound.config config hconfig).within c hc).2
  refine ⟨fun answer saved hsave => ?_, fun index s hs => ?_⟩
  · obtain ⟨hsession, hsaved⟩ := run_saveSequences_eq_ok hsave
    refine ⟨_, run_loadSequences hsound hconfig hsession hsaved, fun operation hop => ?_⟩
    have halike : List.Forall₂ (Sequence.Alike config.table.enabled) w.joinHalves.session.sequences
        ((w.session.sequences.map Sequence.joinHalves).map (Sequence.resized config.table.size)) := by
      rw [joinHalves, withSession, List.forall₂_map_right_iff, List.forall₂_same]
      exact fun s _ => Sequence.alike_resized hwithin s
    obtain ⟨result, after, hrun⟩ := run_answers (sound_joinHalves hsound) operation
    have hreport : w.joinHalves.report operation = .ok (result.map Answer.toJson) := by
      rw [report, hrun]
      rfl
    refine ⟨_, hreport, ?_, fun hjoined => ?_⟩
    · rw [← hreport]
      exact (report_congr (w := w.joinHalves) hconfig rfl halike hop).symm
    · rwa [joinHalves_eq_self hjoined] at hreport
  · have hheld : s ∈ w.session.sequences := by
      obtain ⟨before, behind, hsplit, _⟩ := Session.sequenceAt_eq_ok hs
      rw [hsplit]
      simp
    have hrange : ∀ f ∈ s.frames, f.InRange := fun f hf => (hsound.fits s hheld f hf).toInRange
    refine ⟨_, run_exportClipboard hs, fun v hv place name hplace => ?_⟩
    obtain ⟨after, hrun, hafter⟩ := run_importClipboard hv hplace (Clipboard.encode s.frames)
    refine ⟨_, after, hrun, hafter, ?_⟩
    rw [Clipboard.decode_encode_eq_map hrange]
    refine ⟨List.length_map _, by rw [List.map_map]; rfl, ?_⟩
    apply Update.ofFrames_congr
    rw [List.forall₂_map_left_iff, List.forall₂_same]
    exact fun f _ => Clipboard.sameTargets_carried hwithin f

end

/-- A frame for two channels, of which the device has only one left. -/
theorem reached_transport_narrowed :
    letI := Memory.least
    ∃ configFile storeFile events config,
    (reached configFile storeFile events).session = ⟨some config, [⟨"A", [⟨"Frame 1", 5, [7, 8]⟩]⟩]⟩ ∧
    config.table.size = 1 ∧
    ∃ saved loaded result,
      (reached configFile storeFile events).run .saveSequences = (.ok (.ok .done), saved) ∧
      saved.run .loadSequences = (.ok (.ok .done), loaded) ∧
      (reached configFile storeFile events).report (.loopedScript 0) = .ok result ∧
      loaded.report (.loopedScript 0) = .ok result := by
  let _ := Memory.least
  obtain ⟨store, hstore⟩ : ∃ store : File, store = ⟨"root", "store", "sequences.json", .missing⟩ := ⟨_, rfl⟩
  obtain ⟨wide, hwide⟩ : ∃ wide : File, wide = ⟨"root", "config", "config_file.json",
    .octets (Utf8.encode "\x7b\"version\": 1, \"servo_count\": 2\x7d")⟩ := ⟨_, rfl⟩
  obtain ⟨narrow, hnarrow⟩ : ∃ narrow : File, narrow = ⟨"root", "config", "config_file.json",
    .octets (Utf8.encode "\x7b\"version\": 1, \"servo_count\": 1\x7d")⟩ := ⟨_, rfl⟩
  obtain ⟨sequences, hsequences⟩ : ∃ sequences : List Sequence,
    sequences = [⟨"A", [⟨"Frame 1", 5, [7, 8]⟩]⟩] := ⟨_, rfl⟩
  obtain ⟨two, htwo⟩ : ∃ two : Config,
    two = ⟨⟨[⟨"Channel 0", .servo⟩, ⟨"Channel 1", .servo⟩]⟩, none⟩ := ⟨_, rfl⟩
  obtain ⟨one, hone⟩ : ∃ one : Config, one = ⟨⟨[⟨"Channel 0", .servo⟩]⟩, none⟩ := ⟨_, rfl⟩
  -- The events are evaluated one by one, each from a state that is written out.
  have hload : meet ⟨.fresh, wide, store⟩ (.operation .loadConfig) = ⟨⟨some two, []⟩, wide, store⟩ := by
    subst hwide hstore htwo
    decide +kernel
  have hadd : meet ⟨⟨some two, []⟩, wide, store⟩ (.operation (.add (.object [("name", .text "A"),
      ("frames", .list [.object [("duration_ms", .int 5), ("targets", .list [.int 7, .int 8])]])]))) =
      ⟨⟨some two, sequences⟩, wide, store⟩ := by
    subst hwide hstore htwo hsequences
    decide +kernel
  have hreload : meet ⟨⟨some two, sequences⟩, narrow, store⟩ (.operation .loadConfig) =
      ⟨⟨some one, sequences⟩, narrow, store⟩ := by
    subst hnarrow hstore htwo hone hsequences
    decide +kernel
  have hreached : reached wide store [.operation .loadConfig, .operation (.add (.object
      [("name", .text "A"), ("frames", .list [.object
        [("duration_ms", .int 5), ("targets", .list [.int 7, .int 8])]])])),
      .files narrow store, .operation .loadConfig] = ⟨⟨some one, sequences⟩, narrow, store⟩ := by
    simp only [reached, List.foldl_cons, List.foldl_nil, hload, hadd]
    exact hreload
  have hwritable : ∀ s ∈ sequences, ∀ f ∈ s.frames, f.Writable := by
    subst hsequences
    simp only [List.forall_mem_cons, List.not_mem_nil, false_implies, implies_true, and_true]
    exact ⟨by decide +kernel, by decide +kernel⟩
  obtain ⟨file, hfile⟩ : ∃ file, Store.save sequences store = .ok file := by
    rw [Store.save_eq_write hwritable, hstore]
    exact ⟨_, rfl⟩
  have htransport := reached_transport wide store _ (congrArg (·.session.config) hreached)
  have hrun : Workspace.run ⟨⟨some one, sequences⟩, narrow, store⟩ .saveSequences =
    (.ok (.ok .done), ⟨⟨some one, sequences⟩, narrow, file⟩) := run_saveSequences hfile
  rw [← hreached] at hrun
  obtain ⟨loaded, hloaded, hreports⟩ := htransport.1 _ _ hrun
  obtain ⟨result, _, hafter, hbefore⟩ := hreports (.loopedScript 0) rfl
  have hjoined : ∀ s ∈ (reached wide store [.operation .loadConfig, .operation (.add (.object
      [("name", .text "A"), ("frames", .list [.object
        [("duration_ms", .int 5), ("targets", .list [.int 7, .int 8])]])])),
      .files narrow store, .operation .loadConfig]).session.sequences, s.IsJoined := by
    rw [hreached, hsequences]
    simp only [List.forall_mem_cons, List.not_mem_nil, false_implies, implies_true, and_true]
    exact ⟨by decide, by decide⟩
  refine ⟨wide, store, _, one, ?_, ?_, _, loaded, result, hrun, hloaded, hbefore hjoined, hafter⟩
  · rw [hreached, hsequences]
  · rw [hone]
    rfl

end Workspace

end ServoScript
