import AdaptiveRouting.Proof.Fencing
import AdaptiveRouting.Transport

/-!
# Lost sessions

A session whose boot is fenced, or whose registration is no longer its own, is lost. The context its
frames carry is not live, so the frames that mutate under a context leave the engine alone. The
frames that carry no context do not ask: a fence notice, an epoch advance and the fence that follows
a broken protocol act for whoever sends them (`Frame.breaches`), and they are all that does
(`receiveFrame_inert_iff`).
-/

namespace AdaptiveRouting

open Guard

/-! ## Inert steps -/

/-- Policies, authority and evidence are as they were. -/
structure State.Inert (s s' : State) : Prop where
  policies : s'.policies = s.policies
  standing : s'.standing = s.standing
  evidence : s'.evidence = s.evidence
  evidenceGeneration : s'.evidenceGeneration = s.evidenceGeneration
  evidenceWatermark : s'.evidenceWatermark = s.evidenceWatermark

/-- The publisher is registered with this incarnation. -/
def State.Incarnation (s : State) (publisher : PublisherId) (workerBoot : WorkerBootId) : Prop :=
  ∃ registration, s.registrations[publisher]? = some registration ∧
    registration.workerBoot = workerBoot

namespace State

theorem Inert.refl (s : State) : Inert s s := ⟨rfl, rfl, rfl, rfl, rfl⟩

/-- A fence acts exactly on a registered incarnation. -/
theorem fencePublisher_acts_iff (s : State) (publisher : PublisherId) (workerBoot : WorkerBootId)
    (cause : Text) :
    (¬ s.Incarnation publisher workerBoot ∧ (s.fencePublisher publisher workerBoot cause).1 = s) ∨
      (s.Incarnation publisher workerBoot ∧
        (s.fencePublisher publisher workerBoot cause).1.registrations ≠ s.registrations) := by
  unfold fencePublisher
  cases hfound : s.registrations[publisher]? with
  | none =>
    refine .inl ⟨?_, rfl⟩
    rintro ⟨registration, hregistration, -⟩
    rw [hfound] at hregistration
    cases hregistration
  | some existing =>
    dsimp only
    by_cases hboot : existing.workerBoot = workerBoot
    · refine .inr ⟨⟨existing, hfound, hboot⟩, ?_⟩
      rw [if_neg (by simpa using hboot)]
      intro hsame
      have hgone : (s.registrations.erase publisher)[publisher]? = none := by simp
      have hkept : s.registrations.erase publisher = s.registrations := hsame
      rw [hkept, hfound] at hgone
      cases hgone
    · refine .inl ⟨?_, by rw [if_pos hboot]⟩
      rintro ⟨registration, hregistration, hb⟩
      rw [hfound] at hregistration
      cases hregistration
      exact hboot hb

/-- An epoch advance acts unless the epoch is exhausted. -/
theorem advanceEpoch_acts_iff (s : State) (reason : Text) :
    (s.epoch.next.isSome = false ∧ (s.advanceEpoch reason).1 = s) ∨
      (s.epoch.next.isSome = true ∧ (s.advanceEpoch reason).1.epoch ≠ s.epoch) := by
  rcases s.advanceEpoch_cases reason with ⟨hnone, hs⟩ | ⟨next, hnext, hepoch, -⟩
  · exact .inl ⟨by rw [hnone]; rfl, hs⟩
  · refine .inr ⟨by rw [hnext]; rfl, fun hsame => ?_⟩
    rw [hepoch] at hsame
    have hlt := Generation.lt_next hnext
    rw [hsame] at hlt
    exact UInt64.lt_irrefl _ hlt

end State

/-! ## Sessions and their registrations -/

/-- The session's registration is live and its own. -/
structure Holds (s : State) (session : Session) (registration : PublisherRegistration) : Prop where
  registered : session.registered = true
  unfenced : session.workerBoot ∉ s.fencedBoots
  found : s.registrations[session.publisher]? = some registration
  boot : registration.workerBoot = session.workerBoot
  own : registration.session = session.id

/-- The session registered once, and its boot is fenced or its registration not its own any more. -/
def Lost (s : State) (session : Session) : Prop :=
  session.registered = true ∧ ∀ registration, ¬ Holds s session registration

theorem Lost.not_live {s : State} {session : Session} (h : Lost s session) (reading : Reading)
    (sequence : UInt64) (registration : PublisherRegistration) :
    ¬ Live s (makeContext session reading sequence) registration := fun hl =>
  h.2 registration ⟨h.1, hl.unfenced, hl.registered, hl.boot, hl.session⟩

/-! ## Frames -/

/-- `REGISTER_PUBLISHER`. -/
def Frame.registers : Frame → Bool
  | .registerPublisher _ => true
  | _ => false

/-- `FENCE_NOTICE` and `ADVANCE_EPOCH`. -/
def Frame.governs : Frame → Bool
  | .fenceNotice _ | .advanceEpoch _ => true
  | _ => false

/-- The frames of a registered session that act without a context: a notice that names a registered
incarnation, an advance of an epoch that has a successor, and a broken protocol while the sender's
publisher is registered with the sender's boot. -/
def Frame.breaches (s : State) (session : Session) : Frame → Prop
  | .fenceNotice (some message) => s.Incarnation message.publisher message.workerBoot
  | .advanceEpoch (some _) => s.epoch.next.isSome = true
  | .hello (some version) =>
    version ≠ wireProtocolVersion ∧ s.Incarnation session.publisher session.workerBoot
  | .helloAck | .result | .error | .snapshotResponse =>
    s.Incarnation session.publisher session.workerBoot
  | _ => False

/-- Acting is seen in the registrations or the epoch; not acting keeps what `kept` says. -/
inductive Acts (acting kept : Prop) (s s' : State) : Prop
  | acted (holds : acting) (seen : s'.registrations ≠ s.registrations ∨ s'.epoch ≠ s.epoch)
  | idle (fails : ¬ acting) (keeps : kept)

namespace Acts

variable {acting acting' kept kept' : Prop} {s s' : State}

theorem mono (h : Acts acting kept s s') (hacting : acting ↔ acting') (hkept : kept → kept') :
    Acts acting' kept' s s' := by
  cases h with
  | acted holds seen => exact .acted (hacting.1 holds) seen
  | idle fails keeps => exact .idle (fun ha => fails (hacting.2 ha)) (hkept keeps)

theorem not_inert (h : Acts acting kept s s') (ha : acting) : ¬ s.Inert s' := by
  intro hinert
  cases h with
  | acted holds seen =>
    rcases seen with seen | seen
    · exact seen (State.registrations_of_standing hinert.standing)
    · exact seen (State.epoch_of_standing hinert.standing)
  | idle fails keeps => exact fails ha

theorem keeps (h : Acts acting kept s s') (ha : ¬ acting) : kept := by
  cases h with
  | acted holds seen => exact absurd holds ha
  | idle fails keeps => exact keeps

theorem fence (s : State) (publisher : PublisherId) (workerBoot : WorkerBootId) (cause : Text) :
    Acts (s.Incarnation publisher workerBoot)
      ((s.fencePublisher publisher workerBoot cause).1 = s) s
      (s.fencePublisher publisher workerBoot cause).1 := by
  rcases s.fencePublisher_acts_iff publisher workerBoot cause with ⟨hnone, hs⟩ | ⟨hsome, hs⟩
  · exact .idle hnone hs
  · exact .acted hsome (.inl hs)

theorem advance (s : State) (reason : Text) :
    Acts (s.epoch.next.isSome = true) ((s.advanceEpoch reason).1 = s) s
      (s.advanceEpoch reason).1 := by
  rcases s.advanceEpoch_acts_iff reason with ⟨hnone, hs⟩ | ⟨hsome, hs⟩
  · exact .idle (by rw [hnone]; exact Bool.false_ne_true) hs
  · exact .acted hsome (.inr hs)

end Acts

theorem State.Inert.of_eq {s s' : State} (h : s' = s) : s.Inert s' := by
  rw [h]
  exact .refl s

section
variable {config : EngineConfig} {e : Engine} {session : Session} {frame : Frame} {served : Served}

/-- A handler that makes an operation under a context that is not live. -/
theorem serveOperation_inert {α : Type} {message : Option α} {op : α → Op}
    {context : MutationContext} (hcontext : ∀ message, (op message).context = some context)
    (hdead : ∀ registration, ¬ Live e.state context registration)
    (h : serveOperation config e session frame message op = some served) :
    e.state.Inert served.engine.state ∧ served.disposition = .proceed := by
  unfold serveOperation at h
  cases message with
  | none =>
    cases h
    exact ⟨.refl _, rfl⟩
  | some message =>
    obtain ⟨⟨e', answer⟩, hstep, hserved⟩ := Option.map_eq_some_iff.1 h
    cases hserved
    refine ⟨?_, rfl⟩
    by_cases hsame : e'.state = e.state
    · rw [hsame]
      exact .refl _
    · obtain ⟨registration, hlive⟩ := step_live hstep (hcontext message) hsame
      exact absurd hlive (hdead registration)

theorem handleSnapshotRequest_inert {reading : Reading} {policy : Option AdaptivePolicyId}
    (h : handleSnapshotRequest config e session frame reading policy = some served) :
    e.state.Inert served.engine.state ∧ served.disposition = .proceed := by
  unfold handleSnapshotRequest at h
  cases policy with
  | none =>
    cases h
    exact ⟨.refl _, rfl⟩
  | some policy =>
    dsimp only at h
    split at h
    · cases h
      exact ⟨.refl _, rfl⟩
    · split at h
      · cases h
        exact ⟨.refl _, rfl⟩
      · obtain ⟨⟨e', answer⟩, hstep, hserved⟩ := Option.map_eq_some_iff.1 h
        cases hserved
        obtain ⟨⟨e₁, view⟩, hsnapshot, he⟩ := Option.map_eq_some_iff.1 hstep
        cases he
        refine ⟨?_, rfl⟩
        change e.state.Inert e₁.state
        rcases snapshot_cases hsnapshot with hs | ⟨retained, hs⟩
        · rw [hs]
          exact .refl _
        · rw [hs]
          exact ⟨rfl, rfl, rfl, rfl, rfl⟩

theorem handleHello_acts {wireVersion : Option UInt16} {frame' : Frame}
    (hserved : served = handleHello e session frame' wireVersion) :
    served.engine = e ∧ served.session = session ∧
      (served.disposition = .protocolFailure ↔
        ∃ version, wireVersion = some version ∧ version ≠ wireProtocolVersion) := by
  unfold handleHello at hserved
  cases wireVersion with
  | none =>
    subst hserved
    refine ⟨rfl, rfl, nofun, ?_⟩
    rintro ⟨_, hnone, -⟩
    cases hnone
  | some version =>
    dsimp only at hserved
    split at hserved
    · rename_i hversion
      subst hserved
      exact ⟨rfl, rfl, fun _ => ⟨version, rfl, hversion⟩, fun _ => rfl⟩
    · rename_i hversion
      subst hserved
      refine ⟨rfl, rfl, nofun, ?_⟩
      rintro ⟨_, hsame, hother⟩
      cases hsame
      exact absurd hother hversion

theorem handleQueryState_reads (e : Engine) (session : Session) (frame : Frame)
    (policy : Option AdaptivePolicyId) : (handleQueryState e session frame policy).engine = e ∧
      (handleQueryState e session frame policy).disposition = .proceed := by
  unfold handleQueryState
  cases policy with
  | none => exact ⟨rfl, rfl⟩
  | some policy =>
    dsimp only
    split <;> exact ⟨rfl, rfl⟩

theorem handleDiffRequest_reads (e : Engine) (session : Session) (frame : Frame)
    (message : Option DiffRequestMessage) :
    (handleDiffRequest e session frame message).engine = e ∧
      (handleDiffRequest e session frame message).disposition = .proceed := by
  unfold handleDiffRequest
  cases message with
  | none => exact ⟨rfl, rfl⟩
  | some message =>
    dsimp only
    split
    · exact ⟨rfl, rfl⟩
    · split <;> exact ⟨rfl, rfl⟩

/-- A frame that was served to its end, and the end of its session when it broke the protocol. -/
theorem receiveFrame_cases {reading : Reading}
    (h : receiveFrame config e session frame reading = some served) :
    ∃ answered, dispatch config e session frame reading = some answered ∧
      (answered.disposition ≠ .protocolFailure ∧ served.engine = answered.engine ∨
        answered.disposition = .protocolFailure ∧
          served.engine = sessionLost answered.engine answered.session) := by
  obtain ⟨answered, hdispatch, hserved⟩ := Option.map_eq_some_iff.1 h
  refine ⟨answered, hdispatch, ?_⟩
  split at hserved
  · rename_i hfailed
    subst hserved
    exact .inr ⟨hfailed, rfl⟩
  · rename_i hfailed
    subst hserved
    exact .inl ⟨hfailed, rfl⟩

/-- What a frame of a lost session does: it acts exactly when it breaches. -/
theorem Lost.receiveFrame {reading : Reading} (hlost : Lost e.state session)
    (hframe : frame.registers = false)
    (h : receiveFrame config e session frame reading = some served) :
    Acts (frame.breaches e.state session) (e.state.Inert served.engine.state) e.state
      served.engine.state := by
  obtain ⟨answered, hdispatch, hserved⟩ := receiveFrame_cases h
  have hregistered := hlost.1
  have hdead := hlost.not_live reading (session.dispatched + 1)
  -- a frame under the lost context, or one that only reads
  have hidle : e.state.Inert answered.engine.state ∧ answered.disposition = .proceed →
      Acts False (e.state.Inert served.engine.state) e.state served.engine.state := by
    rintro ⟨hinert, hproceed⟩
    rcases hserved with ⟨-, hengine⟩ | ⟨hfailed, -⟩
    · rw [hengine]
      exact .idle id hinert
    · rw [hproceed] at hfailed
      cases hfailed
  have hread : answered.engine = e → answered.disposition = .proceed →
      Acts False (e.state.Inert served.engine.state) e.state served.engine.state :=
    fun hengine hproceed => hidle ⟨.of_eq (by rw [hengine]), hproceed⟩
  -- the end of the session
  have hbroken : answered.engine = e → answered.session.registered = true →
      answered.session.publisher = session.publisher →
      answered.session.workerBoot = session.workerBoot → answered.disposition = .protocolFailure →
      Acts (e.state.Incarnation session.publisher session.workerBoot)
        (e.state.Inert served.engine.state) e.state served.engine.state := by
    intro hengine hreg hpublisher hboot hfailed
    rcases hserved with ⟨hother, -⟩ | ⟨-, hended⟩
    · exact absurd hfailed hother
    · rw [hended, sessionLost, if_pos hreg, hengine, hpublisher, hboot]
      exact (Acts.fence e.state ..).mono Iff.rfl .of_eq
  unfold dispatch at hdispatch
  simp only [hregistered, Bool.not_true, Bool.false_and, Bool.false_eq_true, if_false] at hdispatch
  cases frame with
  | registerPublisher message => cases hframe
  | hello wireVersion =>
    obtain ⟨hengine, hsession, hfails⟩ := handleHello_acts (Option.some.inj hdispatch).symm
    by_cases hfailed : answered.disposition = .protocolFailure
    · obtain ⟨version, rfl, hversion⟩ := hfails.1 hfailed
      have hacts := hbroken hengine (by rw [hsession]) (by rw [hsession])
        (by rw [hsession]) hfailed
      exact hacts.mono ⟨fun hinc => ⟨hversion, hinc⟩, And.right⟩ id
    · rcases hserved with ⟨-, hengine'⟩ | ⟨hfailed', -⟩
      · refine .idle (fun hbreach => hfailed (hfails.2 ?_)) (.of_eq (by rw [hengine', hengine]))
        cases wireVersion with
        | none => exact absurd hbreach id
        | some version => exact ⟨version, rfl, hbreach.1⟩
      · exact absurd hfailed' hfailed
  | fenceNotice message =>
    cases message with
    | none =>
      cases hdispatch
      exact hread rfl rfl
    | some message =>
      cases hdispatch
      rcases hserved with ⟨-, hengine⟩ | ⟨hfailed, -⟩
      · rw [hengine]
        exact (Acts.fence e.state ..).mono Iff.rfl .of_eq
      · cases hfailed
  | advanceEpoch reason =>
    cases reason with
    | none =>
      cases hdispatch
      exact hread rfl rfl
    | some reason =>
      cases hdispatch
      rcases hserved with ⟨-, hengine⟩ | ⟨hfailed, -⟩
      · rw [hengine]
        exact (Acts.advance e.state reason).mono Iff.rfl .of_eq
      · cases hfailed
  | createPolicy | updatePolicy | policyLifecycle | revokePolicy | upstreamNotify | publishEvidence
  | commitDecision | revalidate | rollback =>
    exact hidle (serveOperation_inert (fun _ => rfl) hdead hdispatch)
  | evaluate message =>
    refine hidle (serveOperation_inert (fun message => ?_) hdead hdispatch)
    dsimp only
    split <;> rfl
  | snapshotRequest policy => exact hidle (handleSnapshotRequest_inert hdispatch)
  | queryState policy =>
    cases hdispatch
    exact hread (handleQueryState_reads ..).1 (handleQueryState_reads ..).2
  | explainRequest policy =>
    cases hdispatch
    cases policy <;> exact hread rfl rfl
  | diffRequest message =>
    cases hdispatch
    exact hread (handleDiffRequest_reads ..).1 (handleDiffRequest_reads ..).2
  | bye =>
    cases hdispatch
    rcases hserved with ⟨-, hengine⟩ | ⟨hfailed, -⟩
    · rw [hengine]
      exact .idle id (.refl _)
    · cases hfailed
  | helloAck | result | error | snapshotResponse =>
    cases hdispatch
    exact hbroken rfl rfl rfl rfl rfl

/-- `FENCE_NOTICE` and `ADVANCE_EPOCH` act for every registered session, lost or not. -/
theorem governs_acts {reading : Reading} (hframe : frame.governs = true)
    (h : receiveFrame config e session frame reading = some served) :
    Acts (session.registered = true ∧ frame.breaches e.state session)
      (served.engine.state = e.state) e.state served.engine.state := by
  obtain ⟨answered, hdispatch, hserved⟩ := receiveFrame_cases h
  have hread : answered.engine = e → answered.disposition = .proceed →
      served.engine.state = e.state := by
    intro hengine hproceed
    rcases hserved with ⟨-, hended⟩ | ⟨hfailed, -⟩
    · rw [hended, hengine]
    · rw [hproceed] at hfailed
      cases hfailed
  have hact : ∀ {acting : Prop},
      Acts acting (answered.engine.state = e.state) e.state answered.engine.state →
      answered.disposition = .proceed → session.registered = true →
      Acts (session.registered = true ∧ acting) (served.engine.state = e.state) e.state
        served.engine.state := by
    intro acting hacts hproceed hregistered
    rcases hserved with ⟨-, hended⟩ | ⟨hfailed, -⟩
    · rw [hended]
      exact hacts.mono ⟨fun hacting => ⟨hregistered, hacting⟩, And.right⟩ id
    · rw [hproceed] at hfailed
      cases hfailed
  unfold dispatch at hdispatch
  by_cases hregistered : session.registered = true
  · simp only [hregistered, Bool.not_true, Bool.false_and, Bool.false_eq_true, if_false]
      at hdispatch
    cases frame with
    | fenceNotice message =>
      cases message with
      | none =>
        cases hdispatch
        exact .idle (fun hacting => hacting.2) (hread rfl rfl)
      | some message =>
        cases hdispatch
        exact hact (Acts.fence e.state ..) rfl hregistered
    | advanceEpoch reason =>
      cases reason with
      | none =>
        cases hdispatch
        exact .idle (fun hacting => hacting.2) (hread rfl rfl)
      | some reason =>
        cases hdispatch
        exact hact (Acts.advance e.state reason) rfl hregistered
    | _ => cases hframe
  · refine .idle (fun hacting => hregistered hacting.1) ?_
    have hclosed : frame.open = false := by cases frame <;> first | rfl | cases hframe
    simp only [hregistered, hclosed, Bool.not_false, Bool.and_self, if_true] at hdispatch
    cases hdispatch
    exact hread rfl rfl

end

/-! ## Fenced sessions -/

/-- A frame of a session leaves the state alone when the session is lost, unless it registers; and a
frame that governs changes the state only for a session that holds a registration entitled to it. -/
structure Confined (entitled : PublisherRegistration → Frame → Prop) (s : State) (session : Session)
    (frame : Frame) (s' : State) : Prop where
  inert : Lost s session → frame.registers = false → s.Inert s'
  governed : frame.governs = true → s' ≠ s →
    ∃ registration, Holds s session registration ∧ entitled registration frame

/-- A frame is confined exactly when its sender, if it is lost, does not breach, and a fence notice
or an epoch advance that takes effect comes from a session whose registration entitles it; whatever
entitles a registration. -/
theorem session_confined_iff (config : EngineConfig)
    (entitled : PublisherRegistration → Frame → Prop) (e : Engine) (session : Session) (frame : Frame)
    (reading : Reading) (served : Served)
    (h : receiveFrame config e session frame reading = some served) :
    Confined entitled e.state session frame served.engine.state ↔
      (Lost e.state session → frame.registers = false → ¬ frame.breaches e.state session) ∧
      (frame.governs = true → session.registered = true → frame.breaches e.state session →
        ∃ registration, Holds e.state session registration ∧ entitled registration frame) := by
  constructor
  · intro hconfined
    refine ⟨fun hlost hframe hbreaches => ?_, fun hgoverns hregistered hbreaches => ?_⟩
    · exact (hlost.receiveFrame hframe h).not_inert hbreaches (hconfined.inert hlost hframe)
    · refine hconfined.governed hgoverns fun hsame => ?_
      exact (governs_acts hgoverns h).not_inert ⟨hregistered, hbreaches⟩ (.of_eq hsame)
  · rintro ⟨hlost, hgoverned⟩
    refine ⟨fun hl hframe => ?_, fun hgoverns hchanged => ?_⟩
    · exact (hl.receiveFrame hframe h).keeps (hlost hl hframe)
    · by_contra hnone
      refine hchanged ((governs_acts hgoverns h).keeps fun hacting => hnone ?_)
      exact hgoverned hgoverns hacting.1 hacting.2

section
open Scenario

/-- The session that registered the publisher of the deployment. -/
def Scenario.connected : Session where
  id := Scenario.session
  registered := true
  publisher := publisher
  workerBoot := boot
  scope := Scenario.scope
  dispatched := 1

/-- The publisher registers, and its boot is fenced. -/
def Scenario.fenced : List Op := [register, .fencePublisher publisher boot "operator"]

def Scenario.reading : Reading := { epoch := ⟨1⟩, begun := 0, now := 0 }

theorem Scenario.connected_lost : Lost (after fenced).state connected := by
  refine ⟨rfl, fun registration hholds => hholds.unfenced ?_⟩
  rw [Std.ExtTreeSet.mem_iff_contains]
  decide +kernel

/-- A frame that mutates under a context is confined when its session is lost. -/
theorem fenced_session_creates_nothing : ∃ served,
    receiveFrame config (after fenced) connected (.createPolicy (some
      { name := name "policy", scope := { fabric := name "fabric", nameSpace := name "space" }
        semantics := semantics })) reading = some served ∧
    Confined (fun _ _ => True) (after fenced).state connected (.createPolicy (some
      { name := name "policy", scope := { fabric := name "fabric", nameSpace := name "space" }
        semantics := semantics })) served.engine.state := by
  obtain ⟨served, hserved⟩ := Option.isSome_iff_exists.1
    (show (receiveFrame config (after fenced) connected (.createPolicy (some
      { name := name "policy", scope := { fabric := name "fabric", nameSpace := name "space" }
        semantics := semantics })) reading).isSome = true by decide +kernel)
  exact ⟨served, hserved, (session_confined_iff config (fun _ _ => True) (after fenced) connected _
    reading served hserved).2 ⟨fun _ _ => id, nofun⟩⟩

/-- A session whose boot was fenced still advances the epoch. -/
theorem fenced_session_advances_epoch :
    ¬ ∀ (e : Engine) (session : Session) (frame : Frame) (reading : Reading) (served : Served),
      Engine.Reachable config e → receiveFrame config e session frame reading = some served →
      Lost e.state session → frame.registers = false → e.state.Inert served.engine.state := by
  intro hclaim
  obtain ⟨served, hserved⟩ := Option.isSome_iff_exists.1
    (show (receiveFrame config (after fenced) connected (.advanceEpoch (some "handover"))
      reading).isSome = true by decide +kernel)
  have hinert := hclaim (after fenced) connected _ reading served
    (reachable_after (by decide +kernel)) hserved connected_lost rfl
  exact (governs_acts rfl hserved).not_inert ⟨rfl, (by decide +kernel :
    (after fenced).state.epoch.next.isSome = true)⟩ hinert

end

end AdaptiveRouting
