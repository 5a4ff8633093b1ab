import ServoScript.Proofs.ChannelTable
import ServoScript.Proofs.Clipboard
import ServoScript.Proofs.Store
import ServoScript.Session

/-!
# What operations do to a session

`Effect` says all that an operation which answers can do to a session. An operation that is refused or
stops at a fault changes nothing, because its only change comes after all that can stop it. From this
follows what holds of every session that is reached from a fresh one, whatever the files hold in the
meantime: all frames fit a device, there are sequences only under a configuration, and the configuration
is sound.
-/

namespace ServoScript

/-- A configuration with one to 24 channels, all of which have names, with enabled channels among
them in ascending order, and with room on a line if lines are broken at all. -/
structure Config.Sound (config : Config) : Prop where
  one_le_size : 1 ≤ config.table.size
  size_le : config.table.size ≤ 24
  ascending : config.table.enabled.Pairwise (· < ·)
  within : ∀ channel ∈ config.table.enabled, 0 ≤ channel ∧ channel < config.table.size
  named : ∀ number : Int,
    (config.table.name? number).isSome ↔ 0 ≤ number ∧ number < config.table.size
  width : ∀ n, config.width = some n → 1 ≤ n

/-- A session whose frames fit every device, whose sequences came under a configuration, and whose
configuration is sound. -/
structure Session.Sound (s : Session) : Prop where
  fits : ∀ sequence ∈ s.sequences, ∀ f ∈ sequence.frames, f.Fits 24
  loaded : s.sequences ≠ [] → s.config ≠ none
  config : ∀ config, s.config = some config → config.Sound

/-! ### Configurations -/

namespace Config

theorem sound_of_width {members : Json.Members} {width : LineWidth}
    (h : ∀ n, width = some n → 1 ≤ n) : Config.Sound ⟨ChannelTable.ofConfig members, width⟩ where
  one_le_size := by
    rw [ChannelTable.size_ofConfig]
    exact (ChannelTable.sizeOf_range members).1
  size_le := by
    rw [ChannelTable.size_ofConfig]
    exact (ChannelTable.sizeOf_range members).2
  ascending := ChannelTable.enabled_ascending _
  within _ hc := ChannelTable.enabled_within hc
  named := ChannelTable.isSome_name? _
  width := h

theorem one_le_of_ofInt {n : Int} {m : Nat} (h : LineWidth.ofInt n = some m) : 1 ≤ m := by
  simp only [LineWidth.ofInt] at h
  split_ifs at h with hn
  cases h
  omega

theorem ofDocument_sound {v : Json} {config : Config} (h : ofDocument v = .ok config) :
    config.Sound := by
  unfold ofDocument at h
  split at h
  · cases h
  split at h
  · cases h
  split_ifs at h
  split at h
  · cases h
    exact sound_of_width (by simp)
  split at h
  · cases h
  · cases h
    exact sound_of_width (fun n hn => one_le_of_ofInt hn)

theorem ofFile_sound {file : File} {config : Config} (h : ofFile file = .ok config) :
    config.Sound := by
  unfold ofFile at h
  split_ifs at h
  split at h
  · cases h
  · exact ofDocument_sound h

end Config

/-! ### Procedures -/

namespace Procedure

variable {α β : Type} {x : Procedure α} {f : α → Procedure β} {w after : Workspace}

def Reads (x : Procedure α) : Prop :=
  ∀ w, (x w).2 = w

/-- A procedure that changes nothing where it has no value. -/
def Atomic (x : Procedure α) : Prop :=
  ∀ w, (∀ a, (x w).1 ≠ .ok (.ok a)) → (x w).2 = w

def Succeeds (x : Procedure α) : Prop :=
  ∀ w, ∃ a, (x w).1 = .ok (.ok a)

theorem bind_apply (x : Procedure α) (f : α → Procedure β) (w : Workspace) :
    (x >>= f) w =
      match x w with
      | (.ok (.ok a), w) => f a w
      | (.ok (.error refusal), w) => (.ok (.error refusal), w)
      | (.error fault, w) => (.error fault, w) :=
  rfl

theorem bind_of_ok {a : α} (h : x w = (.ok (.ok a), after)) : (x >>= f) w = f a after := by
  rw [bind_apply, h]

theorem bind_of_refused {refusal : Refusal} (h : x w = (.ok (.error refusal), after)) :
    (x >>= f) w = (.ok (.error refusal), after) := by
  rw [bind_apply, h]

/-- A procedure of two steps, of which the first one only reads, has the value of the second one. -/
theorem Reads.eq_ok_of_bind {b : β} (hx : x.Reads) (h : (x >>= f) w = (.ok (.ok b), after)) :
    ∃ a, (x w).1 = .ok (.ok a) ∧ f a w = (.ok (.ok b), after) := by
  have hkeep := hx w
  rw [bind_apply] at h
  split at h
  · next a between heq =>
    rw [heq] at hkeep
    rw [heq]
    exact ⟨a, rfl, hkeep ▸ h⟩
  · cases h
  · cases h

theorem Succeeds.atomic (h : x.Succeeds) : x.Atomic := by
  intro w hno
  obtain ⟨a, ha⟩ := h w
  exact absurd ha (hno a)

theorem Succeeds.bind (hx : x.Succeeds) (hf : ∀ a, (f a).Succeeds) : (x >>= f).Succeeds := by
  intro w
  obtain ⟨a, ha⟩ := hx w
  rw [bind_of_ok (Prod.ext ha rfl)]
  exact hf a (x w).2

theorem Reads.bind (hx : x.Reads) (hf : ∀ a, (f a).Reads) : (x >>= f).Reads := by
  intro w
  have hkeep := hx w
  rw [bind_apply]
  split
  · next a between heq =>
    rw [heq] at hkeep
    exact (hf a between).trans hkeep
  · next heq => rwa [heq] at hkeep
  · next heq => rwa [heq] at hkeep

/-- What reads only may come before a procedure that changes nothing without a value. -/
theorem Reads.bind_atomic (hx : x.Reads) (hf : ∀ a, (f a).Atomic) : (x >>= f).Atomic := by
  intro w hno
  have hkeep := hx w
  rw [bind_apply] at hno ⊢
  split at hno
  · next a between heq =>
    rw [heq] at hkeep
    exact (hf a between hno).trans hkeep
  · next heq => rwa [heq] at hkeep
  · next heq => rwa [heq] at hkeep

/-- What always has a value may come behind a procedure that changes nothing without one. -/
theorem Atomic.bind_succeeds (hx : x.Atomic) (hf : ∀ a, (f a).Succeeds) : (x >>= f).Atomic := by
  intro w hno
  rw [bind_apply] at hno ⊢
  split at hno
  · next a between heq =>
    obtain ⟨b, hb⟩ := hf a between
    exact absurd hb (hno b)
  · next refusal between heq =>
    have hkeep := hx w (by simp [heq])
    rwa [heq] at hkeep
  · next fault between heq =>
    have hkeep := hx w (by simp [heq])
    rwa [heq] at hkeep

theorem reads_workspace : workspace.Reads :=
  fun _ => rfl

theorem reads_ofResult (result : Except Fault (Except Refusal α)) : (ofResult result).Reads :=
  fun _ => rfl

theorem reads_loadedConfig : loadedConfig.Reads :=
  fun _ => rfl

theorem reads_sequenceAt (index : Int) : (sequenceAt index).Reads :=
  fun _ => rfl

theorem succeeds_pure (a : α) : (pure a : Procedure α).Succeeds :=
  fun _ => ⟨a, rfl⟩

theorem succeeds_changeSequences (change : List Sequence → List Sequence) :
    (changeSequences change).Succeeds :=
  fun _ => ⟨(), rfl⟩

theorem reads_pure (a : α) : (pure a : Procedure α).Reads :=
  fun _ => rfl

theorem Reads.atomic (h : x.Reads) : x.Atomic :=
  fun w _ => h w

/-- A frame comes to a sequence only once the sequence is found. -/
theorem atomic_extend (index : Int) (frames : List Frame) : (extend index frames).Atomic :=
  (reads_sequenceAt index).bind_atomic fun _ =>
    ((succeeds_changeSequences _).bind fun _ => succeeds_pure _).atomic

theorem atomic_save : save.Atomic := by
  refine reads_workspace.bind_atomic fun w => ?_
  split
  · exact Succeeds.atomic fun _ => ⟨(), rfl⟩
  · split_ifs
    · exact (reads_ofResult _).atomic
    · exact (reads_ofResult _).atomic

theorem ofExcept_eq_ok {result : Except Refusal α} {a : α} (h : (ofExcept result w).1 = .ok (.ok a)) :
    result = .ok a :=
  Except.ok.inj h

theorem ofFaulty_eq_ok {result : Except Fault α} {a : α} (h : (ofFaulty result w).1 = .ok (.ok a)) :
    result = .ok a := by
  obtain ⟨_, hvalue, heq⟩ := map_eq_ok h
  cases heq
  exact hvalue

theorem ofChecked_eq_ok {φ : Type} {refuse : φ → Refusal} {result : Except Fault (Except φ α)} {a : α}
    (h : (ofChecked refuse result w).1 = .ok (.ok a)) : result = .ok (.ok a) := by
  obtain ⟨checked, hchecked, heq⟩ := map_eq_ok h
  cases checked with
  | error flaw => cases heq
  | ok value =>
    cases heq
    exact hchecked

end Procedure

/-! ### Operations -/

/-- An operation that leaves the session alone. -/
def Operation.isQuiet : Operation → Bool
  | .status => true
  | .saveSequences => true
  | .list => true
  | .get _ => true
  | .exportClipboard _ => true
  | .loopedScript _ => true
  | .subroutineListing => true
  | _ => false

/-- What an operation that is not refused makes of the session of a workspace. A sequence that an
operation is about stands between those before it, whose number is its index, and those behind it. -/
inductive Effect [Memory] (w : Workspace) : Operation → Session → Prop where
  | keep {operation : Operation} (quiet : operation.isQuiet = true) : Effect w operation w.session
  | loadConfig {config : Config} (read : Config.ofFile w.configFile = .ok config) :
      Effect w .loadConfig ⟨some config, w.session.sequences⟩
  | loadSequences {config : Config} {sequences : List Sequence}
      (loaded : w.session.config = some config)
      (read : Store.read config.table.size w.storeFile = .ok sequences) :
      Effect w .loadSequences ⟨w.session.config, sequences⟩
  | add {config : Config} {payload : Json} {sequence : Sequence}
      (loaded : w.session.config = some config)
      (read : Sequence.ofPayload (.int config.table.size) payload = .ok (.ok sequence)) :
      Effect w (.add payload) ⟨w.session.config, w.session.sequences ++ [sequence]⟩
  | delete {before after : List Sequence} {sequence : Sequence}
      (held : w.session.sequences = before ++ sequence :: after) :
      Effect w (.delete before.length) ⟨w.session.config, before ++ after⟩
  | appendFrame {config : Config} {before after : List Sequence} {sequence : Sequence}
      {payload : Json} {f : Frame} (loaded : w.session.config = some config)
      (held : w.session.sequences = before ++ sequence :: after)
      (read : Frame.ofPayloadOr (.ok (Frame.placeName sequence.frames.length))
        (.int config.table.size) payload = .ok (.ok f)) :
      Effect w (.appendFrame before.length payload)
        ⟨w.session.config, before ++ ⟨sequence.name, sequence.frames ++ [f]⟩ :: after⟩
  | importClipboard {config : Config} {before after : List Sequence} {sequence : Sequence}
      {t : Text} (loaded : w.session.config = some config)
      (held : w.session.sequences = before ++ sequence :: after) :
      Effect w (.importClipboard before.length t)
        ⟨w.session.config, before ++ ⟨sequence.name,
          sequence.frames ++ Clipboard.decode (some config.table.size) t⟩ :: after⟩

namespace Session

theorem loadedConfig_eq_ok {s : Session} {config : Config} (h : s.loadedConfig = .ok config) :
    s.config = some config := by
  unfold loadedConfig at h
  split at h
  · next c hc =>
    cases h
    exact hc
  · cases h

/-- The sequence at an index stands behind as many others as the index says. -/
theorem sequenceAt_eq_ok {s : Session} {index : Int} {sequence : Sequence}
    (h : s.sequenceAt index = .ok sequence) :
    ∃ before after, s.sequences = before ++ sequence :: after ∧ index = before.length := by
  cases index with
  | negSucc n => simp [sequenceAt, sequenceAt?] at h
  | ofNat n =>
    cases hn : s.sequences[n]? with
    | none => simp [sequenceAt, sequenceAt?, hn] at h
    | some found =>
      have he : found = sequence := by simpa [sequenceAt, sequenceAt?, hn] using h
      obtain ⟨hlt, hget⟩ := List.getElem?_eq_some_iff.mp hn
      refine ⟨s.sequences.take n, s.sequences.drop (n + 1), ?_, ?_⟩
      · rw [← he, ← hget, ← List.drop_eq_getElem_cons hlt, List.take_append_drop]
      · rw [List.length_take, Nat.min_eq_left (Nat.le_of_lt hlt)]
        rfl

theorem lookUp_eq_ok {s : Session} {index : Int} {config : Config} {sequence : Sequence}
    (h : s.lookUp index = .ok (config, sequence)) :
    s.config = some config ∧ s.sequenceAt index = .ok sequence := by
  obtain ⟨c, hc, h⟩ := bind_eq_ok h
  obtain ⟨found, hs, h⟩ := bind_eq_ok h
  cases h
  exact ⟨loadedConfig_eq_ok hc, hs⟩

end Session

namespace Procedure

variable {w after : Workspace}

theorem loadedConfig_apply (w : Workspace) : loadedConfig w = (.ok w.session.loadedConfig, w) :=
  rfl

theorem sequenceAt_apply (index : Int) (w : Workspace) :
    sequenceAt index w = (.ok (w.session.sequenceAt index), w) :=
  rfl

theorem loadedConfig_of_some {config : Config} (h : w.session.config = some config) :
    loadedConfig w = (.ok (.ok config), w) := by
  rw [loadedConfig_apply, Session.loadedConfig, h]

theorem sequenceAt_of_ok {index : Int} {sequence : Sequence}
    (h : w.session.sequenceAt index = .ok sequence) : sequenceAt index w = (.ok (.ok sequence), w) := by
  rw [sequenceAt_apply, h]

theorem save_of_ok {file : File} (h : Store.save w.session.sequences w.storeFile = .ok file) :
    save w = (.ok (.ok ()), ⟨w.session, w.configFile, file⟩) := by
  rw [save, bind_of_ok (rfl : workspace w = (.ok (.ok w), w))]
  simp only [h]
  rfl

theorem save_of_error {fault : Fault} (h : Store.save w.session.sequences w.storeFile = .error fault) :
    save w = (if fault.isSystem then .ok (.error (.unsaved fault)) else .error fault, w) := by
  rw [save, bind_of_ok (rfl : workspace w = (.ok (.ok w), w))]
  simp only [h]
  split_ifs
  · rfl
  · rfl

theorem extend_of_error {index : Int} {refusal : Refusal} (h : w.session.sequenceAt index = .error refusal)
    (frames : List Frame) : extend index frames w = (.ok (.error refusal), w) := by
  have hat : sequenceAt index w = (.ok (.error refusal), w) := by rw [sequenceAt_apply, h]
  rw [extend, bind_of_refused hat]

theorem extend_of_held {before behind : List Sequence} {sequence : Sequence}
    (h : w.session.sequences = before ++ sequence :: behind) (frames : List Frame) :
    extend before.length frames w =
      (.ok (.ok ⟨sequence.name, sequence.frames ++ frames⟩),
        w.withSession ⟨w.session.config,
          before ++ ⟨sequence.name, sequence.frames ++ frames⟩ :: behind⟩) := by
  have hat : w.session.sequenceAt before.length = .ok sequence := by
    simp [Session.sequenceAt, Session.sequenceAt?, h]
  rw [extend, bind_of_ok (sequenceAt_of_ok hat)]
  change ((Except.ok (Except.ok _), w.withSession (w.session.withSequences
    (w.session.sequences.set (before.length : Int).toNat _))) : Except Fault (Except Refusal Sequence) × _) = _
  simp [Session.withSequences, h]

end Procedure

section

variable [Memory]

open Procedure in
/-- Operations that leave the session alone leave the files alone too, unless they write one. -/
theorem Operation.reads_perform {operation : Operation} (hquiet : operation.isQuiet = true)
    (hsaves : operation ≠ .saveSequences) : operation.perform.Reads := by
  cases operation with
  | status => exact reads_workspace.bind fun _ => reads_pure _
  | list => exact reads_workspace.bind fun _ => reads_pure _
  | get index => exact (reads_sequenceAt index).bind fun _ => reads_pure _
  | exportClipboard index => exact (reads_sequenceAt index).bind fun _ => reads_pure _
  | loopedScript index =>
    refine reads_loadedConfig.bind fun _ => (reads_sequenceAt index).bind fun _ => ?_
    exact (reads_ofResult _).bind fun _ => reads_pure _
  | subroutineListing =>
    refine reads_loadedConfig.bind fun _ => reads_workspace.bind fun _ => ?_
    exact (reads_ofResult _).bind fun _ => reads_pure _
  | saveSequences => exact absurd rfl hsaves
  | _ => cases hquiet

open Procedure in
/-- An operation that is refused or stops at a fault changes nothing: whatever it changes, it changes at
its end. -/
theorem Operation.atomic_perform (operation : Operation) : operation.perform.Atomic := by
  cases operation with
  | status | list | get _ | exportClipboard _ | loopedScript _ | subroutineListing =>
    exact (Operation.reads_perform rfl (by simp)).atomic
  | loadConfig =>
    refine reads_workspace.bind_atomic fun _ => (reads_ofResult _).bind_atomic fun _ => ?_
    exact (Succeeds.bind (fun _ => ⟨(), rfl⟩) fun _ => succeeds_pure _).atomic
  | loadSequences =>
    refine reads_loadedConfig.bind_atomic fun _ => reads_workspace.bind_atomic fun _ => ?_
    refine (reads_ofResult _).bind_atomic fun _ => ?_
    exact ((succeeds_changeSequences _).bind fun _ => succeeds_pure _).atomic
  | saveSequences => exact atomic_save.bind_succeeds fun _ => succeeds_pure _
  | add payload =>
    refine reads_loadedConfig.bind_atomic fun _ => (reads_ofResult _).bind_atomic fun _ => ?_
    refine ((succeeds_changeSequences _).bind fun _ => ?_).atomic
    exact Succeeds.bind (fun w => ⟨w, rfl⟩) fun _ => succeeds_pure _
  | delete index =>
    refine (reads_sequenceAt index).bind_atomic fun _ => ?_
    exact ((succeeds_changeSequences _).bind fun _ => succeeds_pure _).atomic
  | appendFrame index payload =>
    refine reads_loadedConfig.bind_atomic fun _ => (reads_sequenceAt index).bind_atomic fun _ => ?_
    refine (reads_ofResult _).bind_atomic fun _ => ?_
    exact (atomic_extend index _).bind_succeeds fun _ => succeeds_pure _
  | importClipboard index t =>
    refine reads_loadedConfig.bind_atomic fun _ => ?_
    exact (atomic_extend index _).bind_succeeds fun _ => succeeds_pure _

variable {w after : Workspace} {answer : Answer}

theorem Operation.keep_of_perform {operation : Operation}
    (h : operation.perform w = (.ok (.ok answer), after)) (hquiet : operation.isQuiet = true)
    (hsaves : operation ≠ .saveSequences) : Effect w operation after.session := by
  have hkeep := Operation.reads_perform hquiet hsaves w
  rw [h] at hkeep
  subst hkeep
  exact .keep hquiet

open Procedure in
/-- The effect of an operation that has an answer. -/
theorem Operation.perform_eq_ok {operation : Operation}
    (h : operation.perform w = (.ok (.ok answer), after)) : Effect w operation after.session := by
  cases operation with
  | status | list | get _ | exportClipboard _ | loopedScript _ | subroutineListing =>
    exact Operation.keep_of_perform h rfl (by simp)
  | loadConfig =>
    obtain ⟨_, hw, hloads⟩ := reads_workspace.eq_ok_of_bind h
    cases hw
    obtain ⟨config, hread, hset⟩ := (reads_ofResult _).eq_ok_of_bind hloads
    cases hset
    exact .loadConfig (ofExcept_eq_ok hread)
  | loadSequences =>
    obtain ⟨config, hconfig, hloads⟩ := reads_loadedConfig.eq_ok_of_bind h
    obtain ⟨_, hw, hloads⟩ := reads_workspace.eq_ok_of_bind hloads
    cases hw
    obtain ⟨sequences, hread, hset⟩ := (reads_ofResult _).eq_ok_of_bind hloads
    cases hset
    exact .loadSequences (Session.loadedConfig_eq_ok (Except.ok.inj hconfig)) (ofFaulty_eq_ok hread)
  | saveSequences =>
    cases hs : Store.save w.session.sequences w.storeFile with
    | ok file =>
      rw [perform, bind_of_ok (save_of_ok hs)] at h
      cases h
      exact .keep rfl
    | error fault =>
      rw [perform, bind_apply, save_of_error hs] at h
      split_ifs at h
      · cases h
      · cases h
  | add payload =>
    obtain ⟨config, hconfig, hadds⟩ := reads_loadedConfig.eq_ok_of_bind h
    obtain ⟨sequence, hread, hadds⟩ := (reads_ofResult _).eq_ok_of_bind hadds
    cases hadds
    exact .add (Session.loadedConfig_eq_ok (Except.ok.inj hconfig)) (ofChecked_eq_ok hread)
  | delete index =>
    obtain ⟨sequence, hfound, hdeletes⟩ := (reads_sequenceAt index).eq_ok_of_bind h
    obtain ⟨before, behind, hheld, rfl⟩ := Session.sequenceAt_eq_ok (Except.ok.inj hfound)
    cases hdeletes
    have herase : w.session.sequences.eraseIdx before.length = before ++ behind := by
      simp [hheld, List.eraseIdx_append_of_length_le]
    change Effect w _ ⟨w.session.config, w.session.sequences.eraseIdx before.length⟩
    rw [herase]
    exact .delete hheld
  | appendFrame index payload =>
    obtain ⟨config, hconfig, hadds⟩ := reads_loadedConfig.eq_ok_of_bind h
    obtain ⟨sequence, hfound, hadds⟩ := (reads_sequenceAt index).eq_ok_of_bind hadds
    obtain ⟨before, behind, hheld, rfl⟩ := Session.sequenceAt_eq_ok (Except.ok.inj hfound)
    obtain ⟨frame, hread, hadds⟩ := (reads_ofResult _).eq_ok_of_bind hadds
    rw [bind_of_ok (extend_of_held hheld _)] at hadds
    cases hadds
    exact .appendFrame (Session.loadedConfig_eq_ok (Except.ok.inj hconfig)) hheld (ofChecked_eq_ok hread)
  | importClipboard index t =>
    obtain ⟨config, hconfig, hadds⟩ := reads_loadedConfig.eq_ok_of_bind h
    cases hfound : w.session.sequenceAt index with
    | error refusal =>
      rw [bind_of_refused (extend_of_error hfound _)] at hadds
      cases hadds
    | ok sequence =>
      obtain ⟨before, behind, hheld, rfl⟩ := Session.sequenceAt_eq_ok hfound
      rw [bind_of_ok (extend_of_held hheld _)] at hadds
      cases hadds
      exact .importClipboard (Session.loadedConfig_eq_ok (Except.ok.inj hconfig)) hheld

namespace Workspace

open Procedure

/-- An operation answers and has its effect, or it changes nothing. -/
theorem run_cases (w : Workspace) (operation : Operation) :
    (∃ answer after, w.run operation = (.ok (.ok answer), after) ∧ Effect w operation after.session) ∨
      ((∃ refusal, w.run operation = (.ok (.error refusal), w)) ∨
        ∃ fault, w.run operation = (.error fault, w)) := by
  have hatomic := operation.atomic_perform w
  rw [run]
  cases hrun : operation.perform w with
  | mk result after =>
    rw [hrun] at hatomic
    cases result with
    | error fault =>
      have hafter : after = w := hatomic (by simp)
      exact .inr (.inr ⟨fault, by rw [hafter]⟩)
    | ok result =>
      cases result with
      | error refusal =>
        have hafter : after = w := hatomic (by simp)
        exact .inr (.inl ⟨refusal, by rw [hafter]⟩)
      | ok answer => exact .inl ⟨answer, after, rfl, Operation.perform_eq_ok hrun⟩

theorem run_importClipboard_of_error {index : Int} {refusal : Refusal}
    (h : w.session.lookUp index = .error refusal) (t : Text) :
    w.run (.importClipboard index t) = (.ok (.error refusal), w) := by
  rw [Session.lookUp] at h
  cases hconfig : w.session.loadedConfig with
  | error unloaded =>
    rw [hconfig] at h
    cases h
    exact bind_of_refused (by rw [loadedConfig_apply, hconfig])
  | ok config =>
    rw [hconfig] at h
    cases hfound : w.session.sequenceAt index with
    | error missing =>
      simp only [bind, Except.bind, hfound] at h
      cases h
      rw [run, Operation.perform, bind_of_ok (loadedConfig_of_some (Session.loadedConfig_eq_ok hconfig))]
      exact bind_of_refused (extend_of_error hfound _)
    | ok sequence =>
      simp only [bind, Except.bind, hfound] at h
      cases h

/-- The frames of a text are added behind those of the sequence. -/
theorem run_importClipboard_of_held {config : Config} {before behind : List Sequence}
    {sequence : Sequence} (hc : w.session.config = some config)
    (h : w.session.sequences = before ++ sequence :: behind) (t : Text) :
    let frames := Clipboard.decode (some config.table.size) t
    let extended : Sequence := ⟨sequence.name, sequence.frames ++ frames⟩
    w.run (.importClipboard before.length t) =
      (.ok (.ok (.imported extended frames.length)),
        w.withSession ⟨w.session.config, before ++ extended :: behind⟩) := by
  intro frames extended
  rw [run, Operation.perform, bind_of_ok (loadedConfig_of_some hc)]
  exact bind_of_ok (extend_of_held h frames)

end Workspace

end

/-! ### Soundness -/

theorem lt_items [Memory] {n : Nat} (h : n ≤ 24) : (n : Int) < Memory.items := by
  have hroom := Memory.items_gt
  omega

theorem Frame.Fits.mono {m n : Nat} {f : Frame} (h : f.Fits m) (hle : m ≤ n) : f.Fits n :=
  ⟨h.toInRange, Nat.le_trans h.length_le hle⟩

namespace Session.Sound

variable {s : Session}

theorem ofFresh : Session.fresh.Sound where
  fits := by simp [Session.fresh]
  loaded := by simp [Session.fresh]
  config := by simp [Session.fresh]

theorem withSequences (h : s.Sound) (hc : s.config ≠ none) {sequences : List Sequence}
    (hf : ∀ sequence ∈ sequences, ∀ f ∈ sequence.frames, f.Fits 24) :
    Session.Sound ⟨s.config, sequences⟩ :=
  ⟨hf, fun _ => hc, h.config⟩

/-- Frames that fit every device may be put at the end of a sequence. -/
theorem withFrames (h : s.Sound) (hc : s.config ≠ none) {before after : List Sequence}
    {sequence : Sequence} (hheld : s.sequences = before ++ sequence :: after) {frames : List Frame}
    (hf : ∀ f ∈ frames, f.Fits 24) :
    Session.Sound ⟨s.config, before ++ ⟨sequence.name, sequence.frames ++ frames⟩ :: after⟩ := by
  have hfits := h.fits
  rw [hheld] at hfits
  apply h.withSequences hc
  intro other hm f hfm
  rcases List.mem_append.mp hm with hb | ha
  · exact hfits other (List.mem_append.mpr (.inl hb)) f hfm
  rcases List.mem_cons.mp ha with rfl | ha
  · rcases List.mem_append.mp hfm with hold | hnew
    · exact hfits sequence (by simp) f hold
    · exact hf f hnew
  · exact hfits other (by simp [ha]) f hfm

end Session.Sound

theorem Effect.sound [Memory] {w : Workspace} {operation : Operation} {s : Session}
    (h : Effect w operation s) (hw : w.session.Sound) : s.Sound := by
  cases h with
  | keep _ => exact hw
  | loadConfig hread =>
    refine ⟨hw.fits, by simp, ?_⟩
    intro config hc
    cases hc
    exact Config.ofFile_sound hread
  | @loadSequences config sequences hc hread =>
    have hsize := (hw.config config hc).size_le
    rw [Store.read_eq_ok (lt_items hsize)] at hread
    cases hread
    apply hw.withSequences (by simp [hc])
    intro sequence hm f hf
    exact (Store.sequencesOf_fits hm f hf).mono hsize
  | @add config payload sequence hc hread =>
    have hsize := (hw.config config hc).size_le
    obtain ⟨result, hresult, hfits⟩ := Sequence.ofPayload_fits (lt_items hsize) payload
    have he := Except.ok.inj (hresult.symm.trans hread)
    apply hw.withSequences (by simp [hc])
    intro other hm f hf
    rcases List.mem_append.mp hm with hold | hnew
    · exact hw.fits other hold f hf
    · rw [List.mem_singleton.mp hnew] at hf
      exact (hfits sequence he f hf).mono hsize
  | @delete before after sequence hheld =>
    have hfits := hw.fits
    rw [hheld] at hfits
    apply hw.withSequences (hw.loaded (by simp [hheld]))
    intro other hm
    apply hfits other
    rcases List.mem_append.mp hm with hb | ha
    · exact List.mem_append.mpr (.inl hb)
    · exact List.mem_append.mpr (.inr (List.mem_cons_of_mem _ ha))
  | @appendFrame config before after sequence payload f hc hheld hread =>
    have hsize := (hw.config config hc).size_le
    obtain ⟨result, hresult, hfits⟩ := Frame.ofPayloadOr_fits (lt_items hsize)
      (Frame.placeName sequence.frames.length) payload
    have he := Except.ok.inj (hresult.symm.trans hread)
    apply hw.withFrames (by simp [hc]) hheld
    intro g hg
    rw [List.mem_singleton.mp hg]
    exact (hfits f he).mono hsize
  | @importClipboard config before after sequence t hc hheld =>
    have hsize := (hw.config config hc).size_le
    apply hw.withFrames (by simp [hc]) hheld
    intro f hf
    exact (Clipboard.decode_fits hf).mono hsize

/-! ### Sessions that are reached -/

/-- What happens to a workspace: an operation, or other files in the places of its own. -/
inductive Event where
  | operation (operation : Operation)
  | files (configFile storeFile : File)

namespace Workspace

variable [Memory]

def meet (w : Workspace) : Event → Workspace
  | .operation operation => (w.run operation).2
  | .files configFile storeFile => ⟨w.session, configFile, storeFile⟩

/-- The workspace that events lead to from a fresh session with two files. -/
def reached (configFile storeFile : File) (events : List Event) : Workspace :=
  events.foldl meet ⟨.fresh, configFile, storeFile⟩

theorem meet_sound {w : Workspace} (h : w.session.Sound) (event : Event) :
    (w.meet event).session.Sound := by
  cases event with
  | files configFile storeFile => exact h
  | operation operation =>
    rw [meet]
    rcases w.run_cases operation with ⟨_, _, hrun, heffect⟩ | ⟨_, hrun⟩ | ⟨_, hrun⟩
    · rw [hrun]
      exact heffect.sound h
    · rwa [hrun]
    · rwa [hrun]

theorem foldl_meet_sound {w : Workspace} (h : w.session.Sound) (events : List Event) :
    (events.foldl meet w).session.Sound := by
  induction events generalizing w with
  | nil => exact h
  | cons event events ih => exact ih (meet_sound h event)

/-- Whatever operations are run from a fresh session on, in any order and with files that change in
between: every frame of every sequence has a duration and targets of 16 bits and at most 24 targets,
there are sequences only once a configuration is loaded, and the loaded configuration is sound. -/
theorem reached_sound (configFile storeFile : File) (events : List Event) :
    (reached configFile storeFile events).session.Sound :=
  foldl_meet_sound Session.Sound.ofFresh events

end Workspace

end ServoScript
