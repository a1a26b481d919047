import AdaptiveRouting.Proof.Acknowledge
import AdaptiveRouting.Proof.Registration
import AdaptiveRouting.Proof.Session
import AdaptiveRouting.Wire

/-!
# What a lost session leaves behind

A session shares its engine with others. When it is lost, the incarnation it registered last is fenced.
So it leaves nothing behind exactly when no other registration is its own and the boots it registered
before are fenced (`Tenure.lose_iff`); a session that gives up an incarnation only after it was fenced
leaves nothing behind (`lost_session_owns_nothing`).
-/

namespace AdaptiveRouting

open Guard Engine

/-! ## Registrations of a step -/

section
variable {config : EngineConfig} {e e' : Engine} {op : Op} {answer : Answer}

/-- A store that is not recovered changes nothing. -/
theorem decodeStore_unrecovered {now : Ticks} {decoded : Except Text DurableState} {origin : Text}
    (h : e.step config (.decodeStore now decoded origin) = some (e', answer))
    (hop : (Op.decodeStore now decoded origin).recovers config.limits = none) :
    e'.state = e.state := by
  cases h
  change (e.state.decodeStore config now decoded origin).1 = e.state
  cases decoded with
  | error refusal => rfl
  | ok durable =>
    rcases applyDurable_cases e.state config now durable origin with ⟨-, hs⟩ | ⟨hadmissible, -⟩
    · exact hs
    · simp [Op.recovers, hadmissible] at hop

/-- A registration that a step leaves was there, or was just made. -/
theorem step_registrations {publisher : PublisherId} {registration : PublisherRegistration}
    (h : e.step config op = some (e', answer)) (hop : op.recovers config.limits = none)
    (hfound : e'.state.registrations[publisher]? = some registration) :
    e.state.registrations[publisher]? = some registration ∨
      ∃ scope, op = .registerPublisher publisher registration.workerBoot scope registration.session ∧
        e.state.registerChecks config.limits publisher registration.workerBoot scope
          registration.session = .ok () := by
  by_cases hgoverns : op.governs = true
  · cases op with
    | registerPublisher other boot scope session =>
      cases h
      change (e.state.registerPublisher ..).1.registrations[publisher]? = _ at hfound
      cases hchecks : e.state.registerChecks config.limits other boot scope session with
      | error refusal =>
        refine .inl ?_
        unfold State.registerPublisher at hfound
        rwa [hchecks] at hfound
      | ok u =>
        obtain ⟨made, hboot, hsession, hinserted⟩ := registerPublisher_registrations hchecks
        rw [hinserted] at hfound
        by_cases hother : other = publisher
        · subst hother
          rw [Std.ExtTreeMap.getElem?_insert_self] at hfound
          cases hfound
          subst hboot hsession
          exact .inr ⟨scope, rfl, hchecks⟩
        · rw [get_insert_ne hother] at hfound
          exact .inl hfound
    | fencePublisher other boot cause =>
      cases h
      change (e.state.fencePublisher ..).1.registrations[publisher]? = _ at hfound
      unfold State.fencePublisher at hfound
      refine .inl ?_
      split at hfound
      · exact hfound
      · split at hfound
        · exact hfound
        · change (e.state.registrations.erase other)[publisher]? = _ at hfound
          rw [Std.ExtTreeMap.getElem?_erase] at hfound
          split at hfound
          · cases hfound
          · exact hfound
    | advanceEpoch reason =>
      cases h
      change (e.state.advanceEpoch reason).1.registrations[publisher]? = _ at hfound
      unfold State.advanceEpoch at hfound
      refine .inl ?_
      split at hfound
      · exact hfound
      · dsimp only at hfound
        split at hfound
        · exact hfound
        · change (∅ : Std.ExtTreeMap PublisherId PublisherRegistration)[publisher]? = _ at hfound
          simp at hfound
    | decodeStore now decoded origin =>
      rw [decodeStore_unrecovered h hop] at hfound
      exact .inl hfound
    | _ => cases hgoverns
  · have hsame := step_standing h (by simpa using hgoverns)
    rw [State.registrations_of_standing hsame] at hfound
    exact .inl hfound

/-- A step that recovers no store ends an incarnation only by fencing its boot. -/
theorem step_incarnation {publisher : PublisherId} {boot : WorkerBootId}
    (h : e.step config op = some (e', answer)) (hop : op.recovers config.limits = none)
    (hlive : e.state.Incarnation publisher boot) :
    boot ∈ e'.state.fencedBoots ∨ e'.state.Incarnation publisher boot := by
  by_cases hgoverns : op.governs = true
  · obtain ⟨registration, hfound, rfl⟩ := hlive
    cases op with
    | registerPublisher other boot scope session =>
      cases hchecks : e.state.registerChecks config.limits other boot scope session with
      | error refusal =>
        cases h
        refine .inr ⟨registration, ?_, rfl⟩
        change (e.state.registerPublisher ..).1.registrations[publisher]? = _
        unfold State.registerPublisher
        rwa [hchecks]
      | ok u =>
        by_cases hother : other = publisher
        · subst hother
          by_cases hboot : registration.workerBoot = boot
          · cases h
            obtain ⟨made, hmade, -, hinserted⟩ := registerPublisher_registrations hchecks
            refine .inr ⟨made, ?_, by rw [hmade, hboot]⟩
            change (e.state.registerPublisher ..).1.registrations[other]? = _
            rw [hinserted, Std.ExtTreeMap.getElem?_insert_self]
          · exact .inl ((Fences.reincarnation hchecks hfound hboot).fenced h)
        · cases h
          obtain ⟨made, -, -, hinserted⟩ := registerPublisher_registrations hchecks
          refine .inr ⟨registration, ?_, rfl⟩
          change (e.state.registerPublisher ..).1.registrations[publisher]? = _
          rw [hinserted, get_insert_ne hother, hfound]
    | fencePublisher other boot cause =>
      by_cases hfences : other = publisher ∧ registration.workerBoot = boot
      · obtain ⟨rfl, rfl⟩ := hfences
        exact .inl ((Fences.explicit hfound).fenced h)
      · cases h
        refine .inr ⟨registration, ?_, rfl⟩
        change (e.state.fencePublisher ..).1.registrations[publisher]? = _
        unfold State.fencePublisher
        cases hexisting : e.state.registrations[other]? with
        | none => exact hfound
        | some existing =>
          dsimp only
          split
          · exact hfound
          · rename_i hboot
            change (e.state.registrations.erase other)[publisher]? = _
            rw [Std.ExtTreeMap.getElem?_erase, if_neg ?_, hfound]
            intro hsame
            obtain rfl := Std.LawfulEqCmp.eq_of_compare hsame
            rw [hexisting] at hfound
            cases hfound
            exact hfences ⟨rfl, by simpa using hboot⟩
    | advanceEpoch reason =>
      cases hepoch : e.state.epoch.next with
      | none =>
        cases h
        refine .inr ⟨registration, ?_, rfl⟩
        change (e.state.advanceEpoch reason).1.registrations[publisher]? = _
        rwa [State.advanceEpoch, hepoch]
      | some next =>
        cases hauthority : e.state.authorityGeneration.next with
        | none =>
          cases h
          refine .inr ⟨registration, ?_, rfl⟩
          change (e.state.advanceEpoch reason).1.registrations[publisher]? = _
          unfold State.advanceEpoch
          rw [hepoch]
          dsimp only
          rw [hauthority]
          exact hfound
        | some authority =>
          exact .inl ((Fences.epoch hfound (by rw [hepoch]; rfl) (by rw [hauthority]; rfl)).fenced h)
    | decodeStore now decoded origin =>
      rw [decodeStore_unrecovered h hop]
      exact .inr ⟨registration, hfound, rfl⟩
    | _ => cases hgoverns
  · have hsame := step_standing h (by simpa using hgoverns)
    exact .inr (by rwa [State.Incarnation, State.registrations_of_standing hsame])

end

/-! ## Tenures -/

/-- A session and the engine it shares with others. `incarnations` are the publishers and boots it
registered; nothing but the statements reads them. -/
structure Tenure where
  engine : Engine
  session : Session
  incarnations : List (PublisherId × WorkerBootId) := []
  ended : Option Wire.SessionEnd := none

/-- A frame of the session, the loss of its connection, or an operation of someone else. -/
inductive Happening
  | frame (frame : Frame) (reading : Reading)
  | lost
  | other (op : Op)

/-- The incarnation a frame registers. -/
def Frame.incarnation : Frame → Option (PublisherId × WorkerBootId)
  | .registerPublisher (some message) => some (message.publisher, message.workerBoot)
  | _ => none

/-- The session is told that its operation took effect. -/
def Reply.accepted : Reply → Bool
  | .answer (.result result) => result.accepted
  | _ => false

namespace Tenure

/-- The end of `session_loop` for a session that is lost. -/
def lose (t : Tenure) : Tenure :=
  { t with engine := sessionLost t.engine t.session, ended := some .lost }

/-- The tenure after a frame was dispatched, before the session ends. -/
def serving (t : Tenure) (frame : Frame) (served : Served) : Tenure :=
  { t with
    engine := served.engine
    session := served.session
    incarnations := t.incarnations ++
      if served.reply.accepted then frame.incarnation.toList else [] }

def serve (config : EngineConfig) (t : Tenure) (frame : Frame) (reading : Reading) : Option Tenure :=
  (dispatch config t.engine t.session frame reading).map fun served =>
    match served.disposition with
    | .proceed => t.serving frame served
    | .close => { t.serving frame served with ended := some .cleanBye }
    | .protocolFailure => (t.serving frame served).lose

/-- What happens to a session that has not ended; others go on when it has. -/
def step (config : EngineConfig) (t : Tenure) : Happening → Option (Tenure × Unit)
  | .frame frame reading =>
    if t.ended.isSome then none else (t.serve config frame reading).map (·, ())
  | .lost => if t.ended.isSome then none else some (t.lose, ())
  | .other op => (t.engine.step config op).map fun after => ({ t with engine := after.1 }, ())

/-- A new session of an engine. -/
def start (e : Engine) (session : SessionId) : Tenure :=
  { engine := e, session := { id := session, scope := { fabric := default, nameSpace := default } } }

end Tenure

/-! ## Frames of a session -/

section
variable {config : EngineConfig} {e : Engine} {session : Session} {frame : Frame}
  {reading : Reading} {served : Served}

/-- What a frame does to its session: it is counted, and an accepted registration is remembered. -/
inductive Enrols (config : EngineConfig) (e : Engine) (session : Session) (frame : Frame)
    (served : Served) : Prop
  | counted (same : served.session = { session with dispatched := session.dispatched + 1 })
      (quiet : frame.incarnation = none ∨
        served.reply.accepted = false ∧ served.engine.state = e.state)
  | enrolled {message : RegisterPublisherMessage}
      (asks : frame = .registerPublisher (some message)) (accepts : served.reply.accepted = true)
      (proceeds : served.disposition = .proceed)
      (checks : e.state.registerChecks config.limits message.publisher message.workerBoot
        message.scope session.id = .ok ())
      (remembers : served.session =
        { session with
          dispatched := session.dispatched + 1, registered := true
          publisher := message.publisher, workerBoot := message.workerBoot, scope := message.scope })
      (steps : ∃ answer, e.step config (.registerPublisher message.publisher message.workerBoot
        message.scope session.id) = some (served.engine, answer))

/-- A registration is accepted when it passes the checks, and changes nothing when it does not. -/
theorem registerPublisher_accepted (s : State) (limits : Limits) (publisher : PublisherId)
    (boot : WorkerBootId) (scope : AuthorityScope) (id : SessionId) :
    (s.registerPublisher limits publisher boot scope id).2.accepted = true ∧
        s.registerChecks limits publisher boot scope id = .ok () ∨
      (s.registerPublisher limits publisher boot scope id).2.accepted = false ∧
        (s.registerPublisher limits publisher boot scope id).1 = s := by
  unfold State.registerPublisher
  cases hchecks : s.registerChecks limits publisher boot scope id with
  | ok u =>
    refine .inl ⟨?_, rfl⟩
    dsimp only
    split
    · simp [OperationResult.accepted, Outcome.isSuccess]
    · split <;> simp [OperationResult.accepted, Outcome.isSuccess]
  | error refusal =>
    have hrejected := s.registerChecks_rejecting limits publisher boot scope id refusal hchecks
    exact .inr ⟨by simpa [OperationResult.accepted, Outcome.isRejection] using hrejected, rfl⟩

theorem serveOperation_proceeds {α : Type} {message : Option α} {op : α → Op}
    (h : serveOperation config e session frame message op = some served) :
    served.session = session ∧ served.disposition = .proceed := by
  unfold serveOperation at h
  cases message with
  | none =>
    cases h
    exact ⟨rfl, rfl⟩
  | some message =>
    obtain ⟨after, -, hserved⟩ := Option.map_eq_some_iff.1 h
    subst hserved
    exact ⟨rfl, rfl⟩

theorem handleSnapshotRequest_proceeds {policy : Option AdaptivePolicyId}
    (h : handleSnapshotRequest config e session frame reading policy = some served) :
    served.session = session ∧ served.disposition = .proceed := by
  unfold handleSnapshotRequest at h
  cases policy with
  | none =>
    cases h
    exact ⟨rfl, rfl⟩
  | some policy =>
    dsimp only at h
    split at h
    · cases h
      exact ⟨rfl, rfl⟩
    · split at h
      · cases h
        exact ⟨rfl, rfl⟩
      · obtain ⟨after, -, hserved⟩ := Option.map_eq_some_iff.1 h
        subst hserved
        exact ⟨rfl, rfl⟩

theorem dispatch_enrols (h : dispatch config e session frame reading = some served) :
    Enrols config e session frame served := by
  unfold dispatch at h
  dsimp only at h
  split at h
  · cases h
    exact .counted rfl (.inr ⟨rfl, rfl⟩)
  · cases frame with
    | registerPublisher message =>
      cases h
      cases message with
      | none => exact .counted rfl (.inl rfl)
      | some message =>
        unfold handleRegisterPublisher
        dsimp only
        split
        · exact .counted rfl (.inr ⟨rfl, rfl⟩)
        · rcases registerPublisher_accepted e.state config.limits message.publisher
            message.workerBoot message.scope session.id with ⟨haccepted, hchecks⟩ | ⟨hrefused, hs⟩
          · exact .enrolled rfl haccepted rfl hchecks (by simp only [haccepted, if_true]) ⟨_, rfl⟩
          · exact .counted (by simp only [hrefused, Bool.false_eq_true, if_false])
              (.inr ⟨hrefused, hs⟩)
    | hello wireVersion =>
      cases h
      exact .counted (handleHello_acts rfl).2.1 (.inl rfl)
    | snapshotRequest policy => exact .counted (handleSnapshotRequest_proceeds h).1 (.inl rfl)
    | queryState policy =>
      cases h
      refine .counted ?_ (.inl rfl)
      unfold handleQueryState
      split
      · rfl
      · split <;> rfl
    | explainRequest policy =>
      cases h
      cases policy <;> exact .counted rfl (.inl rfl)
    | diffRequest message =>
      cases h
      refine .counted ?_ (.inl rfl)
      unfold handleDiffRequest
      cases message with
      | none => rfl
      | some message =>
        dsimp only
        split
        · rfl
        · split <;> rfl
    | bye | helloAck | result | error | snapshotResponse =>
      cases h
      exact .counted rfl (.inl rfl)
    | _ => exact .counted (serveOperation_proceeds h).1 (.inl rfl)

/-- A frame that is not an accepted registration makes no registration for its session. -/
theorem Frame.operation_registers {attempt : UInt64} {op : Op}
    (h : frame.operation session reading attempt = some op)
    (hframe : frame.incarnation = none) : ∀ publisher boot scope id,
      op ≠ .registerPublisher publisher boot scope id := by
  intro publisher boot scope id
  cases frame with
  | registerPublisher message =>
    cases message with
    | none => cases h
    | some message => cases hframe
  | evaluate message =>
    obtain ⟨message, -, rfl⟩ := Option.map_eq_some_iff.1 h
    dsimp only
    split <;> nofun
  | hello | helloAck | queryState | snapshotResponse | explainRequest | diffRequest | result | error
  | bye => cases h
  | _ =>
    obtain ⟨message, -, rfl⟩ := Option.map_eq_some_iff.1 h
    nofun

end

/-- A frame that ends its session as lost, and the loss itself. -/
def Happening.loses : Happening → Bool
  | .lost => true
  | .frame (.hello (some version)) _ => version != wireProtocolVersion
  | .frame .helloAck _ | .frame .result _ | .frame .error _ | .frame .snapshotResponse _ => true
  | _ => false

section
variable {config : EngineConfig} {e : Engine} {session : Session} {frame : Frame}
  {reading : Reading} {served : Served}

/-- Few frames lose their session. -/
theorem dispatch_loses (h : dispatch config e session frame reading = some served)
    (hfails : served.disposition = .protocolFailure) :
    (Happening.frame frame reading).loses = true := by
  have hproceeds : served.disposition = .proceed →
      (Happening.frame frame reading).loses = true := by
    intro hproceeds
    rw [hproceeds] at hfails
    cases hfails
  unfold dispatch at h
  dsimp only at h
  split at h
  · cases h
    exact hproceeds rfl
  · cases frame with
    | hello wireVersion =>
      cases h
      obtain ⟨version, rfl, hversion⟩ := (handleHello_acts rfl).2.2.1 hfails
      simpa [Happening.loses] using hversion
    | helloAck | result | error | snapshotResponse => rfl
    | queryState policy =>
      cases h
      exact hproceeds (handleQueryState_reads ..).2
    | diffRequest message =>
      cases h
      exact hproceeds (handleDiffRequest_reads ..).2
    | explainRequest policy =>
      cases h
      cases policy <;> exact hproceeds rfl
    | bye =>
      cases h
      cases hfails
    | registerPublisher message =>
      cases h
      cases message with
      | none => exact hproceeds rfl
      | some message =>
        apply hproceeds
        unfold handleRegisterPublisher
        dsimp only
        split <;> rfl
    | snapshotRequest policy => exact hproceeds (handleSnapshotRequest_proceeds h).2
    | _ => exact hproceeds (serveOperation_proceeds h).2

end

/-! ## What a step does to a tenure -/

namespace Tenure

/-- The coordinator recovers before it serves, and gives no two sessions one id. -/
def Shared (config : EngineConfig) (t : Tenure) : Happening → Prop
  | .other op => op.recovers config.limits = none ∧
      ∀ publisher boot scope, op ≠ .registerPublisher publisher boot scope t.session.id
  | _ => True

/-- The session registers nothing, and what ends of its incarnations is fenced. -/
structure Leaves (t t' : Tenure) : Prop where
  session : t'.session = { t.session with dispatched := t'.session.dispatched }
  incarnations : t'.incarnations = t.incarnations
  fences : ∀ boot ∈ t.engine.state.fencedBoots, boot ∈ t'.engine.state.fencedBoots
  ends : ∀ publisher boot, t.engine.state.Incarnation publisher boot →
    boot ∈ t'.engine.state.fencedBoots ∨ t'.engine.state.Incarnation publisher boot
  registrations : ∀ (publisher : PublisherId) registration,
    t'.engine.state.registrations[publisher]? = some registration →
    registration.session = t.session.id →
    t.engine.state.registrations[publisher]? = some registration

section
variable {config : EngineConfig} {t t' : Tenure}

theorem Leaves.of_state (hstate : t'.engine.state = t.engine.state)
    (hsession : t'.session = { t.session with dispatched := t'.session.dispatched })
    (hincarnations : t'.incarnations = t.incarnations) : Leaves t t' where
  session := hsession
  incarnations := hincarnations
  fences := by simp [hstate]
  ends := fun _ _ hlive => .inr (by rwa [hstate])
  registrations := fun _ _ hfound _ => by rwa [hstate] at hfound

theorem Leaves.of_step {op : Op} {answer : Answer}
    (h : t.engine.step config op = some (t'.engine, answer))
    (hop : op.recovers config.limits = none)
    (hown : ∀ publisher boot scope, op ≠ .registerPublisher publisher boot scope t.session.id)
    (hsession : t'.session = { t.session with dispatched := t'.session.dispatched })
    (hincarnations : t'.incarnations = t.incarnations) : Leaves t t' where
  session := hsession
  incarnations := hincarnations
  fences := (step_grows h hop).fences
  ends := fun _ _ hlive => step_incarnation h hop hlive
  registrations := by
    intro publisher registration hfound hcarries
    rcases step_registrations h hop hfound with hthere | ⟨scope, hmade, -⟩
    · exact hthere
    · exact absurd (hcarries ▸ hmade) (hown _ _ _)

theorem leaves_lose (t : Tenure) : Leaves t t.lose := by
  by_cases hregistered : t.session.registered = true
  · obtain ⟨answer, hstep⟩ : ∃ answer, t.engine.step {} (.fencePublisher t.session.publisher
        t.session.workerBoot "SESSION_LOST") = some (t.lose.engine, answer) := by
      simp only [lose, sessionLost, hregistered, if_true]
      exact ⟨_, rfl⟩
    exact .of_step hstep rfl (by simp) rfl rfl
  · exact .of_state (by simp [lose, sessionLost, hregistered]) rfl rfl

/-- A step of a tenure: the session registers nothing, registers an incarnation, or is lost. -/
inductive Goes (config : EngineConfig) (t : Tenure) (happening : Happening) (t' : Tenure) : Prop
  | leaves (same : Leaves t t')
      (ended : t'.ended = t.ended ∨ t.ended = none ∧ t'.ended = some .cleanBye)
  | enrols {message : RegisterPublisherMessage} {reading : Reading}
      (asks : happening = .frame (.registerPublisher (some message)) reading)
      (checks : t.engine.state.registerChecks config.limits message.publisher message.workerBoot
        message.scope t.session.id = .ok ())
      (steps : ∃ answer, t.engine.step config (.registerPublisher message.publisher
        message.workerBoot message.scope t.session.id) = some (t'.engine, answer))
      (session : t'.session = { t.session with
        dispatched := t'.session.dispatched, registered := true, publisher := message.publisher
        workerBoot := message.workerBoot, scope := message.scope })
      (incarnations : t'.incarnations =
        t.incarnations ++ [(message.publisher, message.workerBoot)])
      (ended : t.ended = none ∧ t'.ended = none)
  | loses {t₁ : Tenure} (happens : happening.loses = true) (same : Leaves t t₁)
      (running : t.ended = none) (ends : t' = t₁.lose)

theorem serving_goes {frame : Frame} {reading : Reading} {served : Served}
    (hdispatch : dispatch config t.engine t.session frame reading = some served)
    (hrunning : t.ended = none) :
    Leaves t (t.serving frame served) ∨ served.disposition = .proceed ∧
      Goes config t (.frame frame reading) (t.serving frame served) := by
  cases dispatch_enrols hdispatch with
  | counted same quiet =>
    refine .inl ?_
    have hsession : (t.serving frame served).session =
        { t.session with dispatched := (t.serving frame served).session.dispatched } := by
      simp [serving, same]
    rcases quiet with hnone | ⟨hrefused, hstate⟩
    · have hincarnations : (t.serving frame served).incarnations = t.incarnations := by
        simp [serving, hnone]
      cases dispatch_performs hdispatch with
      | idle hengine => exact .of_state (congrArg Engine.state hengine) hsession hincarnations
      | operated asks steps =>
        exact .of_step steps (Frame.operation_recovers asks)
          (fun _ _ _ => Frame.operation_registers asks hnone _ _ _ _) hsession hincarnations
    · exact .of_state hstate hsession (by simp [serving, hrefused])
  | enrolled asks accepts proceeds checks remembers steps =>
    subst asks
    refine .inr ⟨proceeds, .enrols rfl checks steps ?_ ?_ ⟨hrunning, hrunning⟩⟩
    · simp [serving, remembers]
    · simp [serving, accepts, Frame.incarnation]

theorem step_goes {happening : Happening} (h : t.step config happening = some (t', ()))
    (hshared : t.Shared config happening) : Goes config t happening t' := by
  cases happening with
  | other op =>
    obtain ⟨⟨e', answer⟩, hstep, ht⟩ := Option.map_eq_some_iff.1 h
    cases ht
    exact .leaves (.of_step hstep hshared.1 hshared.2 rfl rfl) (.inl rfl)
  | lost =>
    simp only [step] at h
    split at h
    · cases h
    · rename_i hended
      cases h
      exact .loses rfl (.of_state rfl rfl rfl) (by simpa using hended) rfl
  | frame frame reading =>
    simp only [step] at h
    split at h
    · cases h
    · rename_i hended
      have hrunning : t.ended = none := by simpa using hended
      obtain ⟨served, hserved, ht⟩ := Option.map_eq_some_iff.1 h
      obtain ⟨answered, hdispatch, hends⟩ := Option.map_eq_some_iff.1 hserved
      cases ht
      have hgoes := serving_goes hdispatch hrunning
      cases hdisposition : answered.disposition with
      | proceed =>
        rw [hdisposition] at hends
        subst hends
        rcases hgoes with hleaves | ⟨-, hgoes⟩
        · exact .leaves hleaves (.inl rfl)
        · exact hgoes
      | close =>
        rw [hdisposition] at hends
        subst hends
        rcases hgoes with hleaves | ⟨hproceed, -⟩
        · exact .leaves ⟨hleaves.session, hleaves.incarnations, hleaves.fences, hleaves.ends,
            hleaves.registrations⟩ (.inr ⟨hrunning, rfl⟩)
        · rw [hdisposition] at hproceed
          cases hproceed
      | protocolFailure =>
        rw [hdisposition] at hends
        subst hends
        rcases hgoes with hleaves | ⟨hproceed, -⟩
        · exact .loses (dispatch_loses hdispatch hdisposition) hleaves hrunning rfl
        · rw [hdisposition] at hproceed
          cases hproceed

end

/-! ## Every run of a tenure -/

/-- What is known of the incarnations a session registered. -/
structure Tracked (t : Tenure) : Prop where
  held : ∀ incarnation ∈ t.incarnations, incarnation.2 ∈ t.engine.state.fencedBoots ∨
    t.engine.state.Incarnation incarnation.1 incarnation.2
  latest : ∀ incarnation ∈ t.incarnations, incarnation.1 = t.session.publisher →
    incarnation.2 = t.session.workerBoot ∨ incarnation.2 ∈ t.engine.state.fencedBoots
  current : t.session.registered = true →
    (t.session.publisher, t.session.workerBoot) ∈ t.incarnations
  unregistered : t.session.registered = false → t.incarnations = []
  carried : ∀ (publisher : PublisherId) registration,
    t.engine.state.registrations[publisher]? = some registration →
    registration.session = t.session.id → (publisher, registration.workerBoot) ∈ t.incarnations ∧
      (publisher = t.session.publisher → registration.workerBoot = t.session.workerBoot)

/-- No registration carries the session's id, and every boot the session registered is fenced. -/
structure OwnsNothing (t : Tenure) : Prop where
  registrations : ∀ (publisher : PublisherId) registration,
    t.engine.state.registrations[publisher]? = some registration → registration.session ≠ t.session.id
  boots : ∀ incarnation ∈ t.incarnations, incarnation.2 ∈ t.engine.state.fencedBoots

/-- What the session registered for other publishers than its last is over: the registration is not
its own any more, and the boot is fenced, if it is not the last one. -/
def Accounted (t : Tenure) : Prop :=
  ∀ incarnation ∈ t.incarnations, incarnation.1 ≠ t.session.publisher →
    (∀ registration, t.engine.state.registrations[incarnation.1]? = some registration →
      registration.session ≠ t.session.id) ∧
    (incarnation.2 ∈ t.engine.state.fencedBoots ∨ incarnation.2 = t.session.workerBoot)

section
variable {config : EngineConfig} {t t' : Tenure}

theorem Tracked.leaves (h : t.Tracked) (hl : Leaves t t') : t'.Tracked where
  held := by
    intro incarnation hmem
    rw [hl.incarnations] at hmem
    rcases h.held incarnation hmem with hfenced | hlive
    · exact .inl (hl.fences _ hfenced)
    · exact hl.ends _ _ hlive
  latest := by
    intro incarnation hmem hsame
    rw [hl.incarnations] at hmem
    rw [hl.session] at hsame ⊢
    exact (h.latest incarnation hmem hsame).imp_right (hl.fences _)
  current := by
    intro hregistered
    rw [hl.session] at hregistered ⊢
    rw [hl.incarnations]
    exact h.current hregistered
  unregistered := by
    intro hregistered
    rw [hl.session] at hregistered
    rw [hl.incarnations]
    exact h.unregistered hregistered
  carried := by
    intro publisher registration hfound hcarries
    rw [hl.session] at hcarries ⊢
    rw [hl.incarnations]
    exact h.carried publisher registration (hl.registrations _ _ hfound hcarries) hcarries

theorem OwnsNothing.leaves (h : t.OwnsNothing) (hl : Leaves t t') : t'.OwnsNothing where
  registrations := by
    intro publisher registration hfound hcarries
    rw [hl.session] at hcarries
    exact h.registrations publisher registration (hl.registrations _ _ hfound hcarries) hcarries
  boots := by
    intro incarnation hmem
    rw [hl.incarnations] at hmem
    exact hl.fences _ (h.boots incarnation hmem)

theorem Accounted.leaves (h : t.Accounted) (hl : Leaves t t') : t'.Accounted := by
  intro incarnation hmem hother
  rw [hl.incarnations] at hmem
  rw [hl.session] at hother ⊢
  obtain ⟨hforeign, hfenced⟩ := h incarnation hmem hother
  refine ⟨fun registration hfound hcarries => ?_, hfenced.imp_left (hl.fences _)⟩
  exact hforeign registration (hl.registrations _ _ hfound hcarries) hcarries

/-- Only a registered session has incarnations. -/
theorem Tracked.registered (h : t.Tracked) {incarnation : PublisherId × WorkerBootId}
    (hmem : incarnation ∈ t.incarnations) : t.session.registered = true := by
  by_contra hunregistered
  rw [h.unregistered (by simpa using hunregistered)] at hmem
  cases hmem

/-- A session that registers is remembered with the incarnation it registered. -/
theorem Tracked.enrols {message : RegisterPublisherMessage} {answer : Answer} (h : t.Tracked)
    (hchecks : t.engine.state.registerChecks config.limits message.publisher message.workerBoot
      message.scope t.session.id = .ok ())
    (hstep : t.engine.step config (.registerPublisher message.publisher message.workerBoot
      message.scope t.session.id) = some (t'.engine, answer))
    (hsession : t'.session = { t.session with
      dispatched := t'.session.dispatched, registered := true, publisher := message.publisher
      workerBoot := message.workerBoot, scope := message.scope })
    (hincarnations : t'.incarnations = t.incarnations ++ [(message.publisher, message.workerBoot)]) :
    t'.Tracked := by
  obtain ⟨made, hboot, hid, hinserted⟩ := registerPublisher_registrations hchecks
  have hregistrations : t'.engine.state.registrations =
      t.engine.state.registrations.insert message.publisher made := by
    rw [← hinserted]
    exact congrArg (fun after : Engine × Answer => after.1.state.registrations)
      (Option.some.inj hstep.symm)
  have hmade : t'.engine.state.registrations[message.publisher]? = some made := by
    rw [hregistrations, Std.ExtTreeMap.getElem?_insert_self]
  have hheld : ∀ incarnation ∈ t'.incarnations, incarnation.2 ∈ t'.engine.state.fencedBoots ∨
      t'.engine.state.Incarnation incarnation.1 incarnation.2 := by
    intro incarnation hmem
    rw [hincarnations] at hmem
    rcases List.mem_append.1 hmem with hmem | hmem
    · rcases h.held incarnation hmem with hfenced | hlive
      · exact .inl ((step_grows hstep rfl).fences _ hfenced)
      · exact step_incarnation hstep rfl hlive
    · cases List.mem_singleton.1 hmem
      exact .inr ⟨made, hmade, hboot⟩
  refine ⟨hheld, ?_, ?_, ?_, ?_⟩
  · intro incarnation hmem hsame
    rw [hsession] at hsame ⊢
    rcases hheld incarnation hmem with hfenced | ⟨registration, hfound, hlive⟩
    · exact .inr hfenced
    · rw [hsame, hmade] at hfound
      cases hfound
      exact .inl (hlive.symm.trans hboot)
  · intro
    rw [hsession, hincarnations]
    simp
  · intro hregistered
    rw [hsession] at hregistered
    cases hregistered
  · intro publisher registration hfound hcarries
    rw [hsession] at hcarries ⊢
    rw [hincarnations]
    rcases step_registrations hstep rfl hfound with hthere | ⟨scope, hop, -⟩
    · by_cases hpublisher : publisher = message.publisher
      · subst hpublisher
        rw [hmade] at hfound
        cases hfound
        rw [hboot]
        simp
      · refine ⟨?_, fun hsame => absurd hsame hpublisher⟩
        exact List.mem_append_left _ (h.carried publisher registration hthere hcarries).1
    · simp only [Op.registerPublisher.injEq] at hop
      simp [hop.1, hop.2.1]

theorem Tracked.goes {happening : Happening} (h : t.Tracked) (hg : Goes config t happening t') :
    t'.Tracked := by
  cases hg with
  | leaves same => exact h.leaves same
  | enrols asks checks steps session incarnations =>
    obtain ⟨answer, hstep⟩ := steps
    exact h.enrols checks hstep session incarnations
  | loses happens same running ends =>
    subst ends
    exact (h.leaves same).leaves (leaves_lose _)

theorem lose_registrations {publisher : PublisherId} (hother : publisher ≠ t.session.publisher) :
    t.lose.engine.state.registrations[publisher]? = t.engine.state.registrations[publisher]? := by
  unfold lose sessionLost
  dsimp only
  split
  · change (t.engine.state.fencePublisher ..).1.registrations[publisher]? = _
    unfold State.fencePublisher
    split
    · rfl
    · split
      · rfl
      · change (t.engine.state.registrations.erase t.session.publisher)[publisher]? = _
        rw [Std.ExtTreeMap.getElem?_erase, if_neg]
        intro hsame
        exact hother (Std.LawfulEqCmp.eq_of_compare hsame).symm
  · rfl

theorem lose_fencedBoots {boot : WorkerBootId} (h : boot ∈ t.lose.engine.state.fencedBoots) :
    boot ∈ t.engine.state.fencedBoots ∨ boot = t.session.workerBoot := by
  unfold lose sessionLost at h
  dsimp only at h
  split at h
  · change boot ∈ (t.engine.state.fencePublisher ..).1.fencedBoots at h
    rw [State.fencePublisher_fencedBoots] at h
    split at h
    · split at h
      · exact (mem_insert_set.1 h).symm.imp_right Eq.symm
      · exact .inl h
    · exact .inl h
  · exact .inl h

/-- The incarnation a lost session registered last is over. -/
theorem lose_ends (hregistered : t.session.registered = true) {registration : PublisherRegistration}
    (hfound : t.engine.state.registrations[t.session.publisher]? = some registration)
    (hboot : registration.workerBoot = t.session.workerBoot) :
    t.session.workerBoot ∈ t.lose.engine.state.fencedBoots ∧
      t.lose.engine.state.registrations[t.session.publisher]? = none := by
  simp only [lose, sessionLost, hregistered, if_true]
  refine ⟨?_, ?_⟩
  · rw [State.fencePublisher_fencedBoots, hfound]
    simp [hboot]
  · simp [State.fencePublisher, hfound, hboot]

/-- A lost session owns nothing exactly when what it registered before is over. -/
theorem lose_iff (h : t.Tracked) : t.lose.OwnsNothing ↔ t.Accounted := by
  refine ⟨fun howns incarnation hmem hother => ⟨?_, ?_⟩, fun haccounted => ⟨?_, ?_⟩⟩
  · intro registration hfound
    rw [← lose_registrations hother] at hfound
    exact howns.registrations _ _ hfound
  · exact lose_fencedBoots (howns.boots incarnation hmem)
  · intro publisher registration hfound hcarries
    obtain ⟨hmem, hlast⟩ := h.carried publisher registration
      ((leaves_lose t).registrations _ _ hfound hcarries) hcarries
    by_cases hpublisher : publisher = t.session.publisher
    · subst hpublisher
      have hgone := (lose_ends (h.registered hmem) ((leaves_lose t).registrations _ _ hfound hcarries)
        (hlast rfl)).2
      rw [hgone] at hfound
      cases hfound
    · rw [lose_registrations hpublisher] at hfound
      exact (haccounted _ hmem hpublisher).1 registration hfound hcarries
  · intro incarnation hmem
    have hregistered := h.registered hmem
    have hlast : t.session.workerBoot ∈ t.lose.engine.state.fencedBoots := by
      rcases h.held _ (h.current hregistered) with hfenced | ⟨registration, hfound, hboot⟩
      · exact (leaves_lose t).fences _ hfenced
      · exact (lose_ends hregistered hfound hboot).1
    have hover : incarnation.2 ∈ t.engine.state.fencedBoots ∨
        incarnation.2 = t.session.workerBoot := by
      by_cases hpublisher : incarnation.1 = t.session.publisher
      · exact (h.latest incarnation hmem hpublisher).symm
      · exact (haccounted incarnation hmem hpublisher).2
    rcases hover with hfenced | hsame
    · exact (leaves_lose t).fences _ hfenced
    · rw [hsame]
      exact hlast

/-- Once lost, a session owns nothing if it was accounted for when it was lost. -/
theorem OwnsNothing.goes {happening : Happening} (htracked : t.Tracked)
    (hg : Goes config t happening t') (howns : t.ended = some .lost → t.OwnsNothing)
    (haccounted : happening.loses = true → t.Accounted) :
    t'.ended = some .lost → t'.OwnsNothing := by
  intro hlost
  cases hg with
  | leaves same ended =>
    rcases ended with hsame | ⟨-, hclosed⟩
    · exact (howns (hsame.symm.trans hlost)).leaves same
    · rw [hclosed] at hlost
      cases hlost
  | enrols asks checks steps session incarnations ended =>
    rw [ended.2] at hlost
    cases hlost
  | loses happens same running ends =>
    subst ends
    exact (lose_iff (htracked.leaves same)).2 ((haccounted happens).leaves same)

/-- A session registers another publisher only when its last incarnation is over. -/
def Steady (config : EngineConfig) (t : Tenure) : Happening → Prop
  | .frame (.registerPublisher (some message)) _ =>
    t.session.registered = true → message.publisher ≠ t.session.publisher →
    t.engine.state.registerChecks config.limits message.publisher message.workerBoot message.scope
      t.session.id = .ok () →
    t.session.workerBoot ∈ t.engine.state.fencedBoots ∧
      ∀ registration, t.engine.state.registrations[t.session.publisher]? = some registration →
        registration.session ≠ t.session.id
  | _ => True

theorem Accounted.goes {happening : Happening} (htracked : t.Tracked)
    (hg : Goes config t happening t') (hsteady : t.Steady config happening) (h : t.Accounted) :
    t'.Accounted := by
  have htracked' := htracked.goes hg
  cases hg with
  | leaves same => exact h.leaves same
  | loses happens same running ends =>
    subst ends
    exact (h.leaves same).leaves (leaves_lose _)
  | @enrols message reading asks checks steps session incarnations =>
    subst asks
    obtain ⟨answer, hstep⟩ := steps
    have hfences := (step_grows hstep rfl).fences
    intro incarnation hmem hother
    rw [session] at hother ⊢
    rw [incarnations] at hmem
    rcases List.mem_append.1 hmem with hmem | hmem
    · have hregistered := htracked.registered hmem
      have hkept : ∀ registration,
          t'.engine.state.registrations[incarnation.1]? = some registration →
          registration.session = t.session.id →
          t.engine.state.registrations[incarnation.1]? = some registration := by
        intro registration hfound hcarries
        rcases step_registrations hstep rfl hfound with hthere | ⟨scope, hop, -⟩
        · exact hthere
        · simp only [Op.registerPublisher.injEq] at hop
          exact absurd hop.1.symm hother
      by_cases hpublisher : message.publisher = t.session.publisher
      · rw [hpublisher] at hother
        obtain ⟨hforeign, hfenced⟩ := h incarnation hmem hother
        refine ⟨fun registration hfound hcarries =>
          hforeign registration (hkept registration hfound hcarries) hcarries, ?_⟩
        rcases hfenced with hfenced | hsame
        · exact .inl (hfences _ hfenced)
        · rw [hsame]
          have hbefore : (t.session.publisher, t.session.workerBoot) ∈ t'.incarnations := by
            rw [incarnations]
            exact List.mem_append_left _ (htracked.current hregistered)
          rcases htracked'.latest _ hbefore (by rw [session, hpublisher]) with hboot | hfenced
          · rw [session] at hboot
            exact .inr hboot
          · exact .inl hfenced
      · obtain ⟨hboot, hgone⟩ := hsteady hregistered hpublisher checks
        by_cases hlast : incarnation.1 = t.session.publisher
        · refine ⟨fun registration hfound hcarries => ?_, .inl (hfences _ ?_)⟩
          · have hthere := hkept registration hfound hcarries
            rw [hlast] at hthere
            exact hgone registration hthere hcarries
          · rcases htracked.latest incarnation hmem hlast with hsame | hfenced
            · rwa [hsame]
            · exact hfenced
        · obtain ⟨hforeign, hfenced⟩ := h incarnation hmem hlast
          refine ⟨fun registration hfound hcarries =>
            hforeign registration (hkept registration hfound hcarries) hcarries,
            .inl (hfences _ ?_)⟩
          rcases hfenced with hfenced | hsame
          · exact hfenced
          · rwa [hsame]
    · cases List.mem_singleton.1 hmem
      exact absurd rfl hother

end

/-- No registration of the engine carries the id of the new session. -/
def Fresh (e : Engine) (session : SessionId) : Prop :=
  ∀ (publisher : PublisherId) registration,
    e.state.registrations[publisher]? = some registration → registration.session ≠ session

section
variable {config : EngineConfig} {e : Engine} {session : SessionId} {t : Tenure}

theorem tracked_start (hfresh : Fresh e session) : (start e session).Tracked where
  held := nofun
  latest := nofun
  current := nofun
  unregistered _ := rfl
  carried publisher registration hfound hcarries :=
    absurd hcarries (hfresh publisher registration hfound)

theorem tracked_run {ok : Tenure → Happening → Prop} (hfresh : Fresh e session)
    (hok : ∀ t happening, ok t happening → t.Shared config happening)
    (h : Runs.Run (Tenure.step config) ok (start e session) t) : t.Tracked :=
  h.inv (I := Tracked)
    (fun _ _ _ _ hi ht hstep => ht.goes (step_goes hstep (hok _ _ hi))) (tracked_start hfresh)

/-- A session that is lost when it is accounted for owns nothing, and only then. It is accounted for
in every run in which it registers another publisher only when its last incarnation is over. -/
theorem lost_session_owns_nothing (hfresh : Fresh e session) :
    (Runs.Run (Tenure.step config) (Shared config) (start e session) t →
      (t.lose.OwnsNothing ↔ t.Accounted)) ∧
    (Runs.Run (Tenure.step config)
        (fun t happening => t.Shared config happening ∧ (happening.loses = true → t.Accounted))
        (start e session) t →
      t.ended = some .lost → t.OwnsNothing) ∧
    (Runs.Run (Tenure.step config)
        (fun t happening => t.Shared config happening ∧ t.Steady config happening)
        (start e session) t →
      t.Accounted ∧ (t.ended = some .lost → t.OwnsNothing)) := by
  have hstart := tracked_start hfresh
  have htracks : ∀ {ok : Tenure → Happening → Prop},
      (∀ t happening, ok t happening → t.Shared config happening) →
      ∀ t happening t' r, ok t happening → t.Tracked →
        t.step config happening = some (t', r) → t'.Tracked :=
    fun hok _ _ _ _ hi ht hstep => ht.goes (step_goes hstep (hok _ _ hi))
  refine ⟨fun hrun => lose_iff (tracked_run hfresh (fun _ _ => id) hrun), fun hrun => ?_,
    fun hrun => ?_⟩
  · refine hrun.inv_under (J := Tracked) (I := fun t => t.ended = some .lost → t.OwnsNothing)
      (htracks fun _ _ => And.left) ?_ hstart nofun
    intro t happening t' r hi ht howns hstep
    exact OwnsNothing.goes ht (step_goes hstep hi.1) howns hi.2
  · refine hrun.inv_under (J := Tracked)
      (I := fun t => t.Accounted ∧ (t.ended = some .lost → t.OwnsNothing))
      (htracks fun _ _ => And.left) ?_ hstart ⟨nofun, nofun⟩
    intro t happening t' r hi ht ⟨haccounted, howns⟩ hstep
    have hgoes := step_goes hstep hi.1
    exact ⟨haccounted.goes ht hgoes hi.2, OwnsNothing.goes ht hgoes howns fun _ => haccounted⟩

end

end Tenure

namespace Scenario

def secondPublisher : PublisherId := name "second-publisher"

/-- A session registers an incarnation. -/
def introduces (publisher : PublisherId) (workerBoot : WorkerBootId) : Happening :=
  .frame (.registerPublisher (some { publisher, workerBoot, scope })) reading

/-- The tenure of a session of the deployment after what happened to it. -/
def held (happenings : List Happening) : Option Tenure :=
  Runs.runAll (Tenure.step config) (Tenure.start engine session) happenings

/-- The session registers its publisher and is lost. -/
def onePublisher : List Happening := [introduces publisher boot, .lost]

/-- The session registers two publishers and is lost. -/
def twoPublishers : List Happening :=
  [introduces publisher boot, introduces secondPublisher nextBoot, .lost]

theorem fresh_session : Tenure.Fresh engine session := by
  intro publisher registration hfound
  change (∅ : Std.ExtTreeMap PublisherId PublisherRegistration)[publisher]? = _ at hfound
  simp at hfound

end Scenario

open Scenario in
theorem lost_session_owns_nothing_one : ∃ t : Tenure, held onePublisher = some t ∧
    t.ended = some .lost ∧ t.incarnations = [(publisher, boot)] ∧ t.OwnsNothing := by
  obtain ⟨t, hheld, htest⟩ : ∃ t, held onePublisher = some t ∧
      (t.ended == some .lost && t.incarnations == [(publisher, boot)]) = true :=
    Runs.exists_run_of_runAll (by decide +kernel)
  simp only [Bool.and_eq_true, beq_iff_eq] at htest
  refine ⟨t, hheld, htest.1, htest.2, ?_⟩
  unfold held onePublisher at hheld
  obtain ⟨⟨t₁, _⟩, hregisters, hrest⟩ := Option.bind_eq_some_iff.1 hheld
  obtain ⟨⟨t₂, _⟩, hloses, hends⟩ := Option.bind_eq_some_iff.1 hrest
  cases hends
  have hrun : Runs.Run (Tenure.step Scenario.config)
      (fun t happening => t.Shared Scenario.config happening ∧ t.Steady Scenario.config happening)
      (.start engine session) t :=
    .tail (i := .lost)
      (Runs.Run.single (i := introduces publisher boot) ⟨trivial, nofun⟩ hregisters)
      ⟨trivial, trivial⟩ hloses
  exact ((Tenure.lost_session_owns_nothing fresh_session).2.2 hrun).2 htest.1

open Scenario in
/-- The first of two publishers stays registered for the lost session. -/
theorem lost_session_owns_registration :
    ¬ ∀ (config : EngineConfig) (e : Engine) (id : SessionId) (t : Tenure), Reachable config e →
        Tenure.Fresh e id → Runs.Run (Tenure.step config) (Tenure.Shared config) (.start e id) t →
        t.ended = some .lost → t.OwnsNothing := by
  intro h
  obtain ⟨t, hheld, htest⟩ : ∃ t, held twoPublishers = some t ∧
      (t.ended == some .lost && t.session.id == session &&
        t.engine.state.registrations[publisher]?.any fun registration =>
          registration.session == session) = true :=
    Runs.exists_run_of_runAll (by decide +kernel)
  simp only [Bool.and_eq_true, beq_iff_eq, Option.any_eq_true] at htest
  obtain ⟨⟨hlost, hid⟩, registration, hfound, hcarries⟩ := htest
  have hrun := (Runs.runAll_under (fun happening => ∀ t, Tenure.Shared Scenario.config t happening)
    hheld (by simp [twoPublishers, introduces, Tenure.Shared])).mono fun t _ hi => hi t
  exact (h _ _ _ t (@reachable_after [] rfl) fresh_session hrun hlost).registrations _ _
    hfound (hcarries.trans hid.symm)

end AdaptiveRouting
