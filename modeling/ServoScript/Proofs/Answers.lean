import ServoScript.Api
import ServoScript.Proofs.Layout
import ServoScript.Proofs.Session

/-!
# Every operation and every request is answered

In a sound session no operation stops at a fault: it is refused, or it has its effect and answers. A
request runs at most one operation, so its response tells of a breakdown only if the store could not be
written.
-/

namespace ServoScript

theorem Session.Sound.printable {s : Session} (h : s.Sound) {config : Config}
    (hc : s.config = some config) {sequence : Sequence} (hs : sequence ∈ s.sequences) :
    sequence.Printable config.table.enabled := by
  intro f hf
  have hfits := h.fits sequence hs f hf
  have hconfig := h.config config hc
  refine ⟨Numeral.isShort_word hfits.duration, fun channel hmem => ?_, fun channel _ => ?_⟩
  · have hrange := hconfig.within channel hmem
    have hsize := hconfig.size_le
    exact Numeral.isShort_word (by omega)
  · exact Numeral.isShort_word (targetAt_range hfits.targets channel)

namespace Procedure

variable {α β : Type} {x : Procedure α} {f : α → Procedure β} {w : Workspace}

/-- A procedure that does not stop at a fault in a workspace. -/
def Answers (x : Procedure α) (w : Workspace) : Prop :=
  ∃ result, (x w).1 = .ok result

theorem Answers.bind (hx : x.Answers w)
    (hf : ∀ a after, x w = (.ok (.ok a), after) → (f a).Answers after) : (x >>= f).Answers w := by
  obtain ⟨result, hresult⟩ := hx
  rw [Answers, bind_apply]
  split
  · next a after heq => exact hf a after heq
  · exact ⟨_, rfl⟩
  · next heq =>
    rw [heq] at hresult
    cases hresult

theorem answers_pure (a : α) (w : Workspace) : (pure a : Procedure α).Answers w :=
  ⟨.ok a, rfl⟩

theorem answers_ofExcept (result : Except Refusal α) (w : Workspace) : (ofExcept result).Answers w :=
  ⟨result, rfl⟩

theorem answers_ofFaulty {result : Except Fault α} {a : α} (h : result = .ok a) (w : Workspace) :
    (ofFaulty result).Answers w :=
  ⟨.ok a, by rw [h]; rfl⟩

theorem answers_ofChecked {φ : Type} {refuse : φ → Refusal} {result : Except Fault (Except φ α)}
    {checked : Except φ α} (h : result = .ok checked) (w : Workspace) :
    (ofChecked refuse result).Answers w :=
  ⟨checked.mapError refuse, by rw [h]; rfl⟩

theorem answers_sequenceAt (index : Int) (w : Workspace) : (sequenceAt index).Answers w :=
  ⟨_, rfl⟩

/-- A step that needs the configuration may take it for granted. -/
theorem answers_configured {f : Config → Procedure α}
    (h : ∀ config, w.session.config = some config → (f config).Answers w) :
    (loadedConfig >>= f).Answers w := by
  refine Answers.bind ⟨_, rfl⟩ fun config after hloaded => ?_
  obtain ⟨hconfig, rfl⟩ := Prod.mk.inj hloaded
  exact h config (Session.loadedConfig_eq_ok (Except.ok.inj hconfig))

/-- A step that needs a sequence may take it for granted. -/
theorem answers_indexed {index : Int} {f : Sequence → Procedure α}
    (h : ∀ sequence ∈ w.session.sequences, (f sequence).Answers w) :
    (sequenceAt index >>= f).Answers w := by
  refine (answers_sequenceAt index w).bind fun sequence after hfound => ?_
  obtain ⟨hsequence, rfl⟩ := Prod.mk.inj hfound
  obtain ⟨before, behind, hheld, _⟩ := Session.sequenceAt_eq_ok (Except.ok.inj hsequence)
  exact h sequence (by simp [hheld])

theorem answers_extend (index : Int) (frames : List Frame) (w : Workspace) :
    (extend index frames).Answers w :=
  answers_indexed fun _ _ => ⟨_, rfl⟩

theorem answers_save (h : w.session.Sound) : save.Answers w := by
  have hwritable : ∀ s ∈ w.session.sequences, ∀ f ∈ s.frames, f.Writable :=
    fun s hs f hf => (h.fits s hs f hf).toInRange.writable
  cases hs : Store.save w.session.sequences w.storeFile with
  | ok file => exact ⟨.ok (), by rw [save_of_ok hs]⟩
  | error fault =>
    refine ⟨.error (.unsaved fault), ?_⟩
    rw [save_of_error hs, if_pos (Store.isSystem_of_save hwritable hs)]

end Procedure

section

variable [Memory]

open Procedure in
theorem Operation.answers_perform {w : Workspace} (h : w.session.Sound) (operation : Operation) :
    operation.perform.Answers w := by
  cases operation with
  | status => exact ⟨_, rfl⟩
  | loadConfig => exact (answers_ofExcept (Config.ofFile w.configFile) w).bind fun _ _ _ => ⟨_, rfl⟩
  | loadSequences =>
    refine answers_configured fun config hc => ?_
    have hread := Store.read_eq_ok (lt_items (h.config config hc).size_le) w.storeFile
    exact (answers_ofFaulty hread w).bind fun _ _ _ => ⟨_, rfl⟩
  | saveSequences => exact (answers_save h).bind fun _ _ _ => ⟨_, rfl⟩
  | list => exact ⟨_, rfl⟩
  | get index => exact answers_indexed fun _ _ => answers_pure _ w
  | add payload =>
    refine answers_configured fun config hc => ?_
    obtain ⟨_, hread, _⟩ := Sequence.ofPayload_fits (lt_items (h.config config hc).size_le) payload
    exact (answers_ofChecked hread w).bind fun _ _ _ => ⟨_, rfl⟩
  | delete index => exact answers_indexed fun _ _ => ⟨_, rfl⟩
  | appendFrame index payload =>
    refine answers_configured fun config hc => answers_indexed fun sequence _ => ?_
    obtain ⟨_, hread, _⟩ := Frame.ofPayloadOr_fits (lt_items (h.config config hc).size_le)
      (Frame.placeName sequence.frames.length) payload
    refine (answers_ofChecked hread w).bind fun frame after _ => ?_
    exact (answers_extend index [frame] after).bind fun _ _ _ => ⟨_, rfl⟩
  | importClipboard index t =>
    refine answers_configured fun config _ => ?_
    exact (answers_extend index _ w).bind fun _ _ _ => ⟨_, rfl⟩
  | exportClipboard index => exact answers_indexed fun _ _ => answers_pure _ w
  | loopedScript index =>
    refine answers_configured fun config hc => answers_indexed fun sequence hs => ?_
    exact (answers_ofFaulty (Script.compiled_eq config.width (h.printable hc hs)) w).bind
      fun _ _ _ => ⟨_, rfl⟩
  | subroutineListing =>
    refine answers_configured fun config hc => ?_
    have hprintable : ∀ s ∈ w.session.sequences, s.Printable config.table.enabled :=
      fun s hs => h.printable hc hs
    exact (answers_ofFaulty (Script.program_eq config.width hprintable) w).bind fun _ _ _ => ⟨_, rfl⟩

theorem Workspace.run_answers {w : Workspace} (h : w.session.Sound) (operation : Operation) :
    ∃ result after, w.run operation = (.ok result, after) := by
  obtain ⟨result, hresult⟩ := operation.answers_perform h
  exact ⟨result, (operation.perform w).2, Prod.ext hresult rfl⟩

end

/-! ### Requests -/

/-- A command whose response never tells of a breakdown, whatever comes of its operation. -/
def Command.Mild : Command → Prop
  | .reply response => response.status < 500
  | .perform _ render => ∀ result w, (render result w).status < 500

namespace Command

theorem status_refused_lt (refusal : Refusal) : (Response.refused refusal).status < 500 := by
  cases refusal <;> simp [Response.refused, Response.wrong, Response.ofMembers]

theorem status_flattened (v : Json) : (flattened v).status = 200 := by
  cases v <;> rfl

theorem mild_respondWith (operation : Operation) {render : Json → Response}
    (h : ∀ v, (render v).status = 200) : Mild (.perform operation (respondWith render)) := by
  intro result w
  cases result with
  | error refusal => exact status_refused_lt refusal
  | ok answer =>
    change (render answer.toJson).status < 500
    rw [h]
    decide

theorem mild_respondLoaded (operation : Operation) : Mild (.perform operation respondLoaded) := by
  intro result w
  cases result <;> simp [respondLoaded, Response.ofMembers, Response.succeeded]

variable {document : Except Nat Json}

theorem mild_withObject (hdocument : ∀ status, document = .error status → status < 500)
    {make : Json → Command} (h : ∀ payload, (make payload).Mild) : (withObject document make).Mild := by
  unfold withObject
  split
  · next status => exact hdocument status rfl
  · exact h _
  · exact (by decide : 400 < 500)

theorem mild_withText (hdocument : ∀ status, document = .error status → status < 500)
    {make : Text → Command} (h : ∀ t, (make t).Mild) : (withText document make).Mild := by
  unfold withText
  split
  · next status => exact hdocument status rfl
  · split
    · exact h _
    · exact (by decide : 400 < 500)
  · exact (by decide : 400 < 500)

theorem mild_command (hdocument : ∀ status, document = .error status → status < 500) {handler : Handler}
    (hsave : handler ≠ .saveSequences) : (handler.command document).Mild := by
  have hanswered : ∀ key v, (Response.answered key v).status = 200 := fun _ _ => rfl
  cases handler with
  | status => exact mild_respondWith _ fun _ => rfl
  | loadConfig => exact mild_respondLoaded _
  | loadSequences => exact mild_respondLoaded _
  | saveSequences => exact absurd rfl hsave
  | listSequences => exact mild_respondWith _ (hanswered _)
  | addSequence => exact mild_withObject hdocument fun _ => mild_respondWith _ (hanswered _)
  | getSequence index => exact mild_respondWith _ (hanswered _)
  | deleteSequence index => exact mild_respondWith _ status_flattened
  | appendFrame index => exact mild_withObject hdocument fun _ => mild_respondWith _ (hanswered _)
  | exportClipboard index => exact mild_respondWith _ (hanswered _)
  | importClipboard index => exact mild_withText hdocument fun _ => mild_respondWith _ (hanswered _)
  | loopedScript index => exact mild_respondWith _ status_flattened
  | subroutineListing => exact mild_respondWith _ status_flattened

end Command

namespace Workspace

section

variable [Memory] {w : Workspace}

theorem obey_status_lt (h : w.session.Sound) {command : Command} (hc : command.Mild) :
    (w.obey command).1.status < 500 := by
  cases command with
  | reply response => exact hc
  | perform operation render =>
    obtain ⟨result, after, hr⟩ := run_answers h operation
    rw [obey, hr]
    exact hc result after

theorem run_saveSequences {file : File}
    (h : Store.save w.session.sequences w.storeFile = .ok file) :
    w.run .saveSequences = (.ok (.ok .done), ⟨w.session, w.configFile, file⟩) := by
  rw [run, Operation.perform, Procedure.bind_of_ok (Procedure.save_of_ok h)]
  rfl

/-- Saving breaks down only if the store cannot be written. -/
theorem obey_save (h : w.session.Sound) :
    (w.obey (.perform .saveSequences Command.respondSaved)).1.status = 200 ∨
      (w.obey (.perform .saveSequences Command.respondSaved)).1.status = 500 ∧
        ∃ fault, Store.save w.session.sequences w.storeFile = .error fault := by
  cases hs : Store.save w.session.sequences w.storeFile with
  | ok file =>
    refine .inl ?_
    rw [obey, run_saveSequences hs]
    rfl
  | error fault =>
    refine .inr ⟨?_, fault, rfl⟩
    obtain ⟨result, after, hrun⟩ := run_answers h .saveSequences
    rw [obey, hrun]
    cases result with
    | error refusal => rfl
    | ok answer =>
      rw [run, Operation.perform, Procedure.bind_apply, Procedure.save_of_error hs] at hrun
      split_ifs at hrun
      · cases hrun
      · cases hrun

theorem respond_status {ρ : Type} {framework : Framework ρ} {request : ρ} (h : w.session.Sound)
    (hroute : ∀ status, framework.route request = .error status → status < 500)
    (hdocument : ∀ status, framework.document request = .error status → status < 500) :
    (w.respond framework request).1.status < 500 ∨
      framework.route request = .ok .saveSequences ∧ (w.respond framework request).1.status = 500 ∧
        ∃ fault, Store.save w.session.sequences w.storeFile = .error fault := by
  rw [respond]
  split
  · next status hnone => exact .inl (hroute status hnone)
  · next handler hfound =>
    by_cases hsave : handler = .saveSequences
    · subst hsave
      rcases obey_save h with hok | hfailed
      · exact .inl (by rw [Handler.command, hok]; decide)
      · exact .inr ⟨hfound, hfailed⟩
    · exact .inl (obey_status_lt h (Command.mild_command hdocument hsave))

/-- In every workspace that is reached from a fresh session, every operation is answered or refused, a
refused one leaves the session as it is, and one that is answered has its effect and no other. A request is
answered with a status below 500, unless the store cannot be written: wherever the framework answers 404 or
405 to a request without a route, and 400 to one whose body cannot be decoded. -/
theorem reached_answers {ρ : Type} (framework : Framework ρ) (configFile storeFile : File)
    (events : List Event) :
    let w := reached configFile storeFile events
    (∀ operation, ∃ result after, w.run operation = (.ok result, after) ∧
      match result with
      | .error _ => after.session = w.session
      | .ok _ => Effect w operation after.session) ∧
    ∀ request,
      (∀ status, framework.route request = .error status → status = 404 ∨ status = 405) →
      (∀ status, framework.document request = .error status → status = 400) →
      (w.respond framework request).1.status < 500 ∨
        framework.route request = .ok .saveSequences ∧ (w.respond framework request).1.status = 500 ∧
          ∃ fault, Store.save w.session.sequences w.storeFile = .error fault := by
  intro w
  have hsound : w.session.Sound := foldl_meet_sound Session.Sound.ofFresh events
  refine ⟨fun operation => ?_, fun request hroute hdocument => ?_⟩
  · obtain ⟨result, after, hrun⟩ := run_answers hsound operation
    refine ⟨result, after, hrun, ?_⟩
    rcases w.run_cases operation with ⟨_, _, hok, heffect⟩ | ⟨_, hrefused⟩ | ⟨_, hfault⟩
    · cases hok.symm.trans hrun
      exact heffect
    · cases hrefused.symm.trans hrun
      rfl
    · cases hfault.symm.trans hrun
  · refine respond_status hsound (fun status hnone => ?_) fun status hnone => ?_
    · rcases hroute status hnone with rfl | rfl
      · decide
      · decide
    · rw [hdocument status hnone]
      decide

end

/-- A framework whose requests name their handler and bring their document. -/
def direct : Framework (Option Handler × Option Json) where
  route request := request.1.elim (.error 404) .ok
  document request := request.2.elim (.error 400) .ok

/-- A frame for a sequence that is not there, in a body that cannot be decoded, after a folder was found in
place of the configuration. -/
theorem reached_answers_undecodable :
    letI := Memory.least
    ((reached ⟨"root", "config", "config_file.json", .folder⟩ ⟨"root", "store", "sequences.json", .missing⟩
      [.operation .loadConfig]).respond direct (some (.appendFrame 7), none)).1.status < 500 := by
  have hanswers := @reached_answers Memory.least _ direct ⟨"root", "config", "config_file.json", .folder⟩
    ⟨"root", "store", "sequences.json", .missing⟩ [.operation .loadConfig]
  have hstatus := hanswers.2 (some (.appendFrame 7), none) (by rintro _ ⟨⟩) (by rintro _ ⟨⟩; rfl)
  exact hstatus.resolve_right fun hsave => by cases hsave.1

end Workspace

end ServoScript
