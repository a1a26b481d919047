import AdaptiveRouting.Proof.Acknowledge
import AdaptiveRouting.Proof.Decisions
import AdaptiveRouting.Proof.Messages
import AdaptiveRouting.Proof.Frames
import AdaptiveRouting.Proof.Generations
import AdaptiveRouting.Proof.Outstanding
import AdaptiveRouting.Proof.Scenario
import AdaptiveRouting.Wire.Respond

/-!
# What the wire withholds

A session reaches the engine through frames, and knows what it sent and what it was answered
(`Talks`). An update asks for the generation it expects of its policy, which no frame carries into the
context a handler makes: no frame updates a policy (`update_not_offered`). The commit of a ticket is one
frame away from whoever has the ticket (`commitFrame_achieves`), and no other frame does the same
(`dispatch_commits`); but a deferred evaluation is answered without its ticket, and what it is answered
does not tell which path the ticket names. However the frames are chosen by what was sent and received,
there is a session whose commit they miss (`wire_withholds`).
-/

namespace AdaptiveRouting

open Engine Guard

/-! ## What a session wants -/

/-- What the publisher of a session wants of the engine: an update of a policy from a generation, or
the commit of a ticket. -/
inductive Wanted
  | update (policy : AdaptivePolicyId) (declaration : PolicyUpdate)
      (generation : AdaptivePolicyGeneration)
  | commit (ticket : EvaluationTicket)

namespace Wanted

/-- The operation it is, for a caller. -/
def op (context : MutationContext) (now : Ticks) : Wanted → Op
  | update policy declaration generation => .updatePolicy now
      { policy, update := declaration
        context := { context with expectedPolicyGeneration := some generation } }
  | commit ticket => .commitEvaluation now { ticket, context }

def outcome : Wanted → Outcome
  | update .. => .policyUpdated
  | commit _ => .decisionCommitted

/-- It has had the same effect: the policy is declared as it was asked for, or the same engine is
left. -/
def Same (e e' : Engine) : Wanted → Prop
  | update policy .. =>
    (e.state.policies[policy]?).map (fun r => (r.policy.generation, r.policy.scope,
        r.policy.semantics)) =
      (e'.state.policies[policy]?).map fun r => (r.policy.generation, r.policy.scope,
        r.policy.semantics)
  | commit _ => e = e'

end Wanted

/-- The engine carries it out for the publisher of the session, under the attempt of its next
frame. -/
def Granted (config : EngineConfig) (e : Engine) (session : Session) (wanted : Wanted) (now : Ticks)
    (e' : Engine) : Prop :=
  ∃ result, e.step config (wanted.op (makeContext session { epoch := e.state.epoch, begun := now, now }
    (session.dispatched + 1)) now) = some (e', .result result) ∧ result.outcome = wanted.outcome

/-- A frame of the session that can be written has that effect. -/
def Wire.Frame.Achieves (config : EngineConfig) (e : Engine) (session : Session) (wanted : Wanted)
    (e' : Engine) (frame : Wire.Frame) : Prop :=
  ∃ (begun now : Ticks) (accepted : Nat → Ticks) (served : Served),
    frame.Encodable config.limits.maxFrameBytes ∧
    frame.serve config e session begun now accepted = some served ∧ wanted.Same served.engine e'

/-! ## Updates -/

/-- An accepted update expects the generation its policy is at. -/
theorem State.updateChecks_expects {s : State} {limits : Limits} {request : UpdatePolicyRequest}
    {record : PolicyRecord} {fingerprint : Text} {generation : AdaptivePolicyGeneration}
    (h : s.updateChecks limits request = .ok (record, fingerprint, generation)) :
    request.context.expectedPolicyGeneration = some record.policy.generation := by
  unfold updateChecks at h
  obtain ⟨-, h⟩ := seq_ok h
  obtain ⟨-, h⟩ := seq_ok h
  obtain ⟨-, -, h⟩ := bind_ok h
  obtain ⟨found, -, h⟩ := bind_ok h
  obtain ⟨registration, -, h⟩ := bind_ok h
  obtain ⟨-, h⟩ := seq_ok h
  obtain ⟨-, h⟩ := seq_ok h
  obtain ⟨hexpected, h⟩ := seq_ok h
  obtain ⟨-, h⟩ := seq_ok h
  obtain ⟨-, -, h⟩ := bind_ok h
  obtain ⟨_, -, h⟩ := bind_ok h
  cases h
  simpa using hexpected

/-- No frame carries a generation it expects a policy to be at. -/
theorem Frame.operation_expects {frame : Frame} {session : Session} {reading : Reading}
    {attempt : UInt64} {now : Ticks} {request : UpdatePolicyRequest}
    (h : frame.operation session reading attempt = some (.updatePolicy now request)) :
    request.context.expectedPolicyGeneration = none := by
  cases frame with
  | updatePolicy message =>
    obtain ⟨message, -, hop⟩ := Option.map_eq_some_iff.1 h
    cases hop
    rfl
  | evaluate message =>
    obtain ⟨message, -, hop⟩ := Option.map_eq_some_iff.1 h
    dsimp only at hop
    split at hop <;> cases hop
  | hello | helloAck | queryState | snapshotResponse | explainRequest | diffRequest | result | error
  | bye => cases h
  | _ =>
    obtain ⟨message, -, hop⟩ := Option.map_eq_some_iff.1 h
    cases hop

section
variable {config : EngineConfig} {e : Engine} {session : Session} {policy : AdaptivePolicyId}
  {record : PolicyRecord}

/-- No frame takes a policy to another generation. -/
theorem dispatch_generation {frame : Frame} {reading : Reading} {served : Served}
    (h : dispatch config e session frame reading = some served)
    (hrecord : e.state.policies[policy]? = some record) :
    ∃ record', served.engine.state.policies[policy]? = some record' ∧
      record'.policy.generation = record.policy.generation := by
  cases dispatch_performs h with
  | idle same =>
    rw [same]
    exact ⟨record, hrecord, rfl⟩
  | operated asks steps =>
    obtain ⟨record', hrecord', hchange⟩ :=
      step_record steps (Frame.operation_recovers asks) hrecord
    refine ⟨record', hrecord', ?_⟩
    rcases hchange.declares with ⟨hsame, -⟩ | hredeclared
    · exact hsame
    · cases hredeclared with
      | updated updates _ checks =>
        subst updates
        have hexpected := State.updateChecks_expects checks
        rw [Frame.operation_expects asks] at hexpected
        cases hexpected

/-- An update that is carried out takes its policy to the next generation. -/
theorem updated_generation {now : Ticks} {request : UpdatePolicyRequest} {e' : Engine}
    {result : OperationResult}
    (h : e.step config (.updatePolicy now request) = some (e', .result result))
    (hupdated : result.outcome = .policyUpdated) :
    ∃ record record', e.state.policies[request.policy]? = some record ∧
      e'.state.policies[request.policy]? = some record' ∧
      record.policy.generation.next = some record'.policy.generation := by
  cases h
  cases hchecks : e.state.updateChecks config.limits request with
  | error answer =>
    unfold State.updatePolicy at hupdated
    rw [hchecks] at hupdated
    exact absurd hupdated
      ((e.state.updateChecks_replayed _ _ _ hchecks).outcome_ne rfl (by simp))
  | ok accepted =>
    obtain ⟨record, fingerprint, generation⟩ := accepted
    obtain ⟨_, haccepted⟩ := State.updateChecks_ok hchecks
    refine ⟨record, _, haccepted.found, updatePolicy_get hchecks, ?_⟩
    have hredeclared : Redeclared config.limits e.state (.updatePolicy now request) request.policy
        record (e.state.updatedRecord now request generation record) := .updated rfl rfl hchecks
    exact hredeclared.next

/-- No frame makes an update that the engine would make. -/
theorem update_not_offered {declaration : PolicyUpdate} {generation : AdaptivePolicyGeneration}
    {now : Ticks} {e' : Engine}
    (h : Granted config e session (.update policy declaration generation) now e')
    (frame : Wire.Frame) :
    ¬ frame.Achieves config e session (.update policy declaration generation) e' := by
  intro hachieves
  obtain ⟨result, hstep, houtcome⟩ := h
  obtain ⟨begun, later, accepted, served, -, hserved, hsame⟩ := hachieves
  obtain ⟨record, updated, hrecord, hupdated, hnext⟩ := updated_generation hstep houtcome
  obtain ⟨reached, hreached, hgeneration⟩ := dispatch_generation hserved hrecord
  change served.engine.state.policies[policy]? = _ at hreached
  change e'.state.policies[policy]? = _ at hupdated
  unfold Wanted.Same at hsame
  simp only [hreached, hupdated, Option.map_some, Option.some.injEq, Prod.mk.injEq] at hsame
  have hlt := Generation.lt_next hnext
  rw [← hsame.1, hgeneration] at hlt
  exact absurd hlt (UInt64.lt_irrefl _)

end

/-! ## Commits -/

/-- The frame of a ticket. -/
def commitFrame (ticket : EvaluationTicket) : Wire.Frame where
  header := { messageId := .commitDecision, epoch := ⟨1⟩ }
  payload := Wire.encodeTicket ticket

/-- A frame has room for the ticket, and the payload carries it. -/
def EvaluationTicket.Fits (limits : Limits) (ticket : EvaluationTicket) : Prop :=
  ticket.OnWire ∧
    Wire.frameHeaderBytes + (Wire.encodeTicket ticket).length + Wire.frameTrailerBytes ≤
      limits.maxFrameBytes.toNat ∧
    (Wire.encodeTicket ticket).length ≤ 0xFFFFFFFF

section
variable {config : EngineConfig} {e e' : Engine} {session : Session}

/-- The frame of a ticket makes the commit of its session. -/
theorem commitFrame_achieves {ticket : EvaluationTicket} {now : Ticks}
    (hregistered : session.registered = true) (hfits : ticket.Fits config.limits)
    (hgranted : Granted config e session (.commit ticket) now e') :
    (commitFrame ticket).Achieves config e session (.commit ticket) e' := by
  obtain ⟨hticket, htotal, hlength⟩ := hfits
  obtain ⟨result, hstep, -⟩ := hgranted
  have hdecodes : CommitDecisionMessage.decode (Wire.encodeTicket ticket) = some { ticket } :=
    CommitDecisionMessage.lawful.reads { ticket } hticket
  have hinterpret : (commitFrame ticket).interpret = .commitDecision (some ticket) := by
    unfold Wire.Frame.interpret commitFrame
    simp only [hdecodes, Option.map_some]
  have hserves : (commitFrame ticket).serve config e session now now (fun _ => now) =
      some { engine := e', session := { session with dispatched := session.dispatched + 1 }
             reply := .answer (.result result) } := by
    unfold Wire.Frame.serve
    rw [hinterpret]
    unfold dispatch
    dsimp only
    rw [if_neg (by simp [hregistered])]
    exact congrArg (Option.map fun (after : Engine × Answer) =>
      ({ engine := after.1, session := { session with dispatched := session.dispatched + 1 },
         reply := .answer after.2 } : Served)) hstep
  exact ⟨now, now, fun _ => now, _, ⟨rfl, rfl, htotal, hlength⟩, hserves, rfl⟩

/-- A rollback decides nothing, or mints twice. -/
theorem rollback_mints {limits : Limits} {now : Ticks} {request : RollbackRequest}
    {result : OperationResult} (h : rollback limits e now request = some (e', result)) :
    e'.state.decisionJournal = e.state.decisionJournal ∨
      e'.ids.counter = e.ids.counter + 1 + 1 := by
  cases rollback_records h with
  | idle journal => exact .inl journal
  | decided found records =>
    cases records with
    | rollback checks verified mints decides =>
      unfold AdaptiveRouting.rollback at h
      dsimp only at h
      rw [checks] at h
      dsimp only at h
      rw [verified] at h
      obtain ⟨⟨_, ids₁⟩, h₁, h⟩ := Option.bind_eq_some_iff.1 h
      obtain ⟨⟨_, ids₂⟩, h₂, h⟩ := Option.bind_eq_some_iff.1 h
      cases h
      obtain ⟨-, rfl⟩ := IdFactory.mint_eq h₁
      obtain ⟨-, rfl⟩ := IdFactory.mint_eq h₂
      exact .inr rfl

/-- An evaluation leaves the state, or mints three times before it commits. -/
theorem evaluate_mints {limits : Limits} {begun now : Ticks} {request : EvaluateRequest}
    {result : OperationResult} (h : evaluate limits e begun now request = some (e', result))
    (hroom : e.ids.counter.toNat + 5 < UInt64.size) :
    e'.state = e.state ∨ e.ids.counter.toNat + 3 ≤ e'.ids.counter.toNat := by
  obtain ⟨⟨e₁, ticket⟩, hbegin, hrest⟩ := Option.bind_eq_some_iff.1 h
  have hafter := evaluate_ids_after h hbegin
  cases beginEvaluation_begins hbegin with
  | refused refuses lifecycle blank same =>
    subst same
    dsimp only at hrest
    rw [if_pos ⟨lifecycle, blank⟩] at hrest
    cases hrest
    exact .inl rfl
  | issued accepts lifecycle room counted minted moved =>
    refine .inr ?_
    simp only [UInt64.size] at hroom
    have hmoved : e₁.ids.counter.toNat = e.ids.counter.toNat + 3 := by
      rw [moved]
      simp only [UInt64.toNat_add, UInt64.toNat_one]
      omega
    have hle := (hafter.counter (by simp only [UInt64.size]; omega)).1
    omega

/-- A frame that decides something and mints one identity commits the ticket it carries. -/
theorem dispatch_commits {frame : Frame} {reading : Reading} {served : Served}
    (h : dispatch config e session frame reading = some served)
    (hjournal : served.engine.state.decisionJournal ≠ e.state.decisionJournal)
    (hcounter : served.engine.ids.counter = e.ids.counter + 1)
    (hroom : e.ids.counter.toNat + 5 < UInt64.size) :
    ∃ (ticket : EvaluationTicket) (request : CommitDecisionRequest) (outcome : Outcome),
      frame = .commitDecision (some ticket) ∧ request.ticket = ticket ∧
        CommitEffect config.limits e.state reading.now request served.engine.state outcome := by
  have hcount : served.engine.ids.counter.toNat = e.ids.counter.toNat + 1 := by
    simp only [UInt64.size] at hroom
    rw [hcounter, UInt64.toNat_add, UInt64.toNat_one]
    omega
  cases dispatch_performs h with
  | idle same =>
    rw [same] at hjournal
    exact absurd rfl hjournal
  | @operated op answer asks steps =>
    have hdecides : op.decides = true := by
      cases hdecides : op.decides with
      | true => rfl
      | false =>
        exact absurd (step_journal steps hdecides (Frame.operation_recovers asks)) hjournal
    cases frame with
    | commitDecision ticket =>
      obtain ⟨ticket, rfl, hop⟩ := Option.map_eq_some_iff.1 asks
      subst hop
      obtain ⟨⟨e₁, result⟩, hcommit, heq⟩ := Option.map_eq_some_iff.1 steps
      obtain ⟨rfl, -⟩ := Prod.mk.inj heq
      exact ⟨ticket, _, result.outcome, rfl, rfl, commitEvaluation_cases hcommit⟩
    | evaluate message =>
      obtain ⟨message, -, hop⟩ := Option.map_eq_some_iff.1 asks
      dsimp only at hop
      split at hop
      · subst hop
        cases hdecides
      · subst hop
        obtain ⟨⟨e₁, result⟩, hevaluate, heq⟩ := Option.map_eq_some_iff.1 steps
        obtain ⟨rfl, -⟩ := Prod.mk.inj heq
        rcases evaluate_mints hevaluate hroom with hsame | hmore
        · rw [hsame] at hjournal
          exact absurd rfl hjournal
        · omega
    | rollback message =>
      obtain ⟨message, -, hop⟩ := Option.map_eq_some_iff.1 asks
      subst hop
      obtain ⟨⟨e₁, result⟩, hrollback, heq⟩ := Option.map_eq_some_iff.1 steps
      obtain ⟨rfl, -⟩ := Prod.mk.inj heq
      rcases rollback_mints hrollback with hsame | hmore
      · exact absurd hsame hjournal
      · rw [hmore, UInt64.add_assoc] at hcounter
        simp at hcounter
    | hello | helloAck | queryState | snapshotResponse | explainRequest | diffRequest | result | error
    | bye => cases asks
    | _ =>
      obtain ⟨_, -, hop⟩ := Option.map_eq_some_iff.1 asks
      subst hop
      cases hdecides

end

/-- A commit leaves the preference of a policy, or installs the path its ticket names. -/
theorem CommitEffect.prefers {limits : Limits} {s s' : State} {now : Ticks}
    {request : CommitDecisionRequest} {outcome : Outcome}
    (h : CommitEffect limits s now request s' outcome) (policy : AdaptivePolicyId) :
    (s'.policies[policy]?).map (·.preference.preferredPath) =
        (s.policies[policy]?).map (·.preference.preferredPath) ∨
      (s'.policies[policy]?).map (·.preference.preferredPath) =
        some request.ticket.targetPreference := by
  cases h with
  | refused | unverified => exact .inl rfl
  | unchanged => exact .inl (by rw [State.recordAttempt_policies])
  | @suppressed record id decision checks =>
    obtain ⟨_, haccepted⟩ := State.commitChecks_ok checks
    refine .inl ?_
    simp only [State.recordAttempt_policies, State.journal_policies, State.putRecord_policies]
    by_cases hpolicy : request.ticket.dependencies.policy = policy
    · subst hpolicy
      rw [Std.ExtTreeMap.getElem?_insert_self, haccepted.found]
      rfl
    · rw [get_insert_ne hpolicy]
  | @committed record target adaptation transitionGeneration transition id preference checks eligible
      other verified installs =>
    subst installs
    simp only [State.recordAttempt_policies, State.journal_policies, State.putRecord_policies]
    by_cases hpolicy : request.ticket.dependencies.policy = policy
    · subst hpolicy
      rw [Std.ExtTreeMap.getElem?_insert_self]
      exact .inr (congrArg some (PolicyRecord.findCandidate_path (State.verifyCommit_ok verified).1))
    · exact .inl (by rw [get_insert_ne hpolicy])

/-! ## What a session knows -/

/-- What a session sent, each frame with what the handler answered. -/
abbrev Transcript := List (Wire.Frame × List Wire.Frame)

/-- The ticket an answer reports on. -/
def Reply.issued : Reply → List EvaluationTicket
  | .answer (.ticket ticket) => [ticket]
  | _ => []

/-- A session talks to an engine on which others act too: what it sent and received, and the tickets of
its deferred evaluations, which stay with the coordinator. -/
inductive Talks (config : EngineConfig) :
    Transcript → List EvaluationTicket → Session → Engine → Prop
  | connected {e : Engine} {id : SessionId} (reachable : Reachable config e) :
      Talks config [] [] { id, scope := { fabric := default, nameSpace := default } } e
  | elsewhere {transcript : Transcript} {issued : List EvaluationTicket} {session : Session}
      {e e' : Engine} {op : Op} {answer : Answer} (talks : Talks config transcript issued session e)
      (steps : e.step config op = some (e', answer)) : Talks config transcript issued session e'
  | said {transcript : Transcript} {issued : List EvaluationTicket} {session : Session} {e : Engine}
      {frame : Wire.Frame} {begun now : Ticks} {accepted : Nat → Ticks} {served : Served}
      (talks : Talks config transcript issued session e)
      (encodable : frame.Encodable config.limits.maxFrameBytes)
      (serves : frame.serve config e session begun now accepted = some served)
      (proceeds : served.disposition = .proceed) :
      Talks config
        (transcript ++ [(frame, served.reply.frames config.limits served.engine now frame)])
        (issued ++ served.reply.issued) served.session served.engine

/-! ### Two sides of one conversation -/

namespace Scenario

/-- Two paths are declared; the first is the faster one. -/
def surveyed (first second : PathId) : List Op :=
  created ++ [activate, notify (declare left) "left", notify (declare right) "right",
    publish first 100 "first-evidence", publish second 200 "second-evidence"]

def asker : Session where
  id := name "asker"
  scope := { fabric := default, nameSpace := default }

/-- The session registers a publisher of its own. -/
def enrol : Wire.Frame where
  header := { messageId := .registerPublisher, sequence := 1, epoch := ⟨1⟩ }
  payload := RegisterPublisherMessage.encode
    { publisher := name "operator", workerBoot := name "operator-boot", scope }

/-- It asks for an evaluation of the policy, without the commit. -/
def ask : Wire.Frame where
  header := { messageId := .evaluate, sequence := 2, epoch := ⟨1⟩ }
  payload := EvaluateMessage.encode { policy, deferCommit := true }

/-- The session after its deferred evaluation. -/
structure Conversation where
  transcript : Transcript
  ticket : EvaluationTicket
  session : Session
  engine : Engine

def converse (e : Engine) : Option Conversation :=
  (enrol.serve config e asker 2 2 fun _ => 2).bind fun enrolled =>
    (ask.serve config enrolled.engine enrolled.session 3 3 fun _ => 3).bind fun asked =>
      if enrolled.disposition = .proceed ∧ asked.disposition = .proceed then
        asked.reply.issued.head?.map fun ticket =>
          { transcript :=
              [(enrol, enrolled.reply.frames config.limits enrolled.engine 2 enrol),
                (ask, asked.reply.frames config.limits asked.engine 3 ask)]
            ticket, session := asked.session, engine := asked.engine }
      else none

theorem converse_talks {e : Engine} {talk : Conversation} (h : converse e = some talk)
    (hreachable : Reachable config e) : ∃ issued, talk.ticket ∈ issued ∧
      Talks config talk.transcript issued talk.session talk.engine := by
  unfold converse at h
  obtain ⟨enrolled, henrolled, h⟩ := Option.bind_eq_some_iff.1 h
  obtain ⟨asked, hasked, h⟩ := Option.bind_eq_some_iff.1 h
  split at h
  · rename_i hproceed
    obtain ⟨ticket, hticket, heq⟩ := Option.map_eq_some_iff.1 h
    subst heq
    have hconnected : Talks config [] [] asker e := .connected hreachable
    have henrol : enrol.Encodable config.limits.maxFrameBytes :=
      ⟨rfl, rfl, by decide +kernel, by decide +kernel⟩
    have hask : ask.Encodable config.limits.maxFrameBytes :=
      ⟨rfl, rfl, by decide +kernel, by decide +kernel⟩
    exact ⟨_, List.mem_append_right _ (List.mem_of_mem_head? hticket),
      (hconnected.said henrol henrolled hproceed.1).said hask hasked hproceed.2⟩
  · cases h

/-- What the commit of the ticket leaves: the policy comes to prefer the path, one decision is
recorded and one identity minted. -/
def adopts (path : PathId) (talk : Conversation) : Bool :=
  (talk.engine.step config ((Wanted.commit talk.ticket).op (makeContext talk.session
    { epoch := talk.engine.state.epoch, begun := 4, now := 4 } (talk.session.dispatched + 1))
    4)).any fun entry => entry.2.outcome == some .decisionCommitted &&
      entry.1.ids.counter == talk.engine.ids.counter + 1 &&
      entry.1.state.decisionJournal.length != talk.engine.state.decisionJournal.length &&
      (entry.1.state.policies[policy]?).map (·.preference.preferredPath) == some path &&
      (talk.engine.state.policies[policy]?).map (·.preference.preferredPath) != some path

theorem adopts_granted {path : PathId} {talk : Conversation} (h : adopts path talk = true)
    (hroom : talk.engine.ids.counter.toNat + 5 < UInt64.size) :
    ∃ e', Granted config talk.engine talk.session (.commit talk.ticket) 4 e' ∧
      ∀ frame : Wire.Frame,
        frame.Achieves config talk.engine talk.session (.commit talk.ticket) e' →
          ∃ ticket, frame.interpret = .commitDecision (some ticket) ∧
            ticket.targetPreference = path := by
  obtain ⟨⟨e', answer⟩, hstep, htests⟩ := (Option.any_eq_true _ _).1 h
  simp only [Bool.and_eq_true, beq_iff_eq, bne_iff_ne] at htests
  obtain ⟨⟨⟨⟨houtcome, hcounter⟩, hjournal⟩, hafter⟩, hbefore⟩ := htests
  obtain ⟨⟨e₁, result⟩, hcommit, heq⟩ := Option.map_eq_some_iff.1 hstep
  obtain ⟨-, rfl⟩ := Prod.mk.inj heq
  refine ⟨e', ⟨result, hstep, by simpa [Answer.outcome, Wanted.outcome] using houtcome⟩, ?_⟩
  rintro frame ⟨begun, now, accepted, served, -, hserved, hsame⟩
  obtain rfl : served.engine = e' := hsame
  obtain ⟨ticket, request, outcome, hframe, hticket, heffect⟩ := dispatch_commits hserved
    (fun hkept => hjournal (by rw [hkept])) hcounter hroom
  refine ⟨ticket, hframe, ?_⟩
  rcases heffect.prefers policy with hkept | hinstalled
  · rw [hafter] at hkept
    exact absurd hkept.symm hbefore
  · rw [hafter, hticket] at hinstalled
    exact (Option.some.inj hinstalled).symm

theorem surveyed_conversation {first second : PathId}
    (h : (returns (surveyed first second) && (converse (after (surveyed first second))).any
      fun talk => adopts first talk &&
        decide (talk.engine.ids.counter.toNat + 5 < UInt64.size)) = true) :
    ∃ talk issued e', converse (after (surveyed first second)) = some talk ∧
      talk.ticket ∈ issued ∧ Talks config talk.transcript issued talk.session talk.engine ∧
      Granted config talk.engine talk.session (.commit talk.ticket) 4 e' ∧
      ∀ frame : Wire.Frame,
        frame.Achieves config talk.engine talk.session (.commit talk.ticket) e' →
          ∃ ticket, frame.interpret = .commitDecision (some ticket) ∧
            ticket.targetPreference = first := by
  simp only [Bool.and_eq_true] at h
  obtain ⟨hreturns, htalk⟩ := h
  obtain ⟨talk, hconverse, htests⟩ := (Option.any_eq_true _ _).1 htalk
  simp only [Bool.and_eq_true, decide_eq_true_eq] at htests
  obtain ⟨issued, hissued, htalks⟩ := converse_talks hconverse (reachable_after hreturns)
  obtain ⟨e', hgranted, hframes⟩ := adopts_granted htests.1 htests.2
  exact ⟨talk, issued, e', hconverse, hissued, htalks, hgranted, hframes⟩

end Scenario

/-! ## The gap -/

open Scenario in
/-- No frame makes an update that the engine would make. However frames are chosen by what a session
sent and received, there is a session whose deferred evaluation the engine would commit and whose
chosen frame does not; what it lacks is the ticket, whose frame does. -/
theorem wire_withholds (config : EngineConfig) (e : Engine) (session : Session)
    (choose : Transcript → Wire.Frame) :
    (∀ (policy : AdaptivePolicyId) (declaration : PolicyUpdate)
        (generation : AdaptivePolicyGeneration) (now : Ticks) (e' : Engine) (frame : Wire.Frame),
      Granted config e session (.update policy declaration generation) now e' →
        ¬ frame.Achieves config e session (.update policy declaration generation) e') ∧
    (∃ transcript issued speaker reached ticket now e',
      Talks Scenario.config transcript issued speaker reached ∧ ticket ∈ issued ∧
        Granted Scenario.config reached speaker (.commit ticket) now e' ∧
        ¬ (choose transcript).Achieves Scenario.config reached speaker (.commit ticket) e') ∧
    ∀ (ticket : EvaluationTicket) (now : Ticks) (e' : Engine), session.registered = true →
      ticket.Fits config.limits → Granted config e session (.commit ticket) now e' →
        (commitFrame ticket).Achieves config e session (.commit ticket) e' := by
  refine ⟨fun _ _ _ _ _ frame h => update_not_offered h frame, ?_,
    fun _ _ _ hregistered hfits h => commitFrame_achieves hregistered hfits h⟩
  obtain ⟨talk₁, issued₁, e₁, hconverse₁, hissued₁, htalks₁, hgranted₁, hframes₁⟩ :=
    @surveyed_conversation left right (by decide +kernel)
  obtain ⟨talk₂, issued₂, e₂, hconverse₂, hissued₂, htalks₂, hgranted₂, hframes₂⟩ :=
    @surveyed_conversation right left (by decide +kernel)
  have hsame : talk₁.transcript = talk₂.transcript := by
    have hboth : (converse (after (surveyed left right))).map (·.transcript) =
        (converse (after (surveyed right left))).map (·.transcript) := by decide +kernel
    rw [hconverse₁, hconverse₂] at hboth
    exact Option.some.inj hboth
  by_cases hleft : (choose talk₁.transcript).Achieves Scenario.config talk₁.engine talk₁.session
      (.commit talk₁.ticket) e₁
  · refine ⟨_, _, _, _, _, _, _, htalks₂, hissued₂, hgranted₂, fun hright => ?_⟩
    rw [hsame] at hleft
    obtain ⟨ticket₁, hcarries₁, htarget₁⟩ := hframes₁ _ hleft
    obtain ⟨ticket₂, hcarries₂, htarget₂⟩ := hframes₂ _ hright
    rw [hcarries₁] at hcarries₂
    cases hcarries₂
    exact absurd (htarget₁.symm.trans htarget₂) (by decide)
  · exact ⟨_, _, _, _, _, _, _, htalks₁, hissued₁, hgranted₁, hleft⟩

namespace Scenario

/-- The session that registered the publisher. -/
def speaker : Session where
  id := session
  registered := true
  publisher := publisher
  workerBoot := boot
  scope := scope

/-- Phase one of an evaluation that leads to the right path. -/
def defers : Op := .beginEvaluation 3 { evaluation "deferred" with deferCommit := true }

def deferred : EvaluationTicket := ticketAfter challenged defers

/-- The engine carries out what a publisher wants. -/
def grants (ops : List Op) (wanted : Wanted) (now : Ticks) : Bool :=
  answers ops (wanted.op (makeContext speaker { epoch := (after ops).state.epoch, begun := now, now }
    (speaker.dispatched + 1)) now) fun answer => answer.outcome == some wanted.outcome

theorem short_fits {ticket : EvaluationTicket} (hticket : ticket.OnWire)
    (hlength : (Wire.encodeTicket ticket).length ≤ 4096) : ticket.Fits config.limits := by
  have hroom : Wire.frameHeaderBytes + 4096 + Wire.frameTrailerBytes ≤
      config.limits.maxFrameBytes.toNat := by decide
  exact ⟨hticket, by omega, by omega⟩

theorem grants_granted {ops : List Op} {wanted : Wanted} {now : Ticks}
    (h : grants ops wanted now = true) :
    ∃ e', Granted config (after ops) speaker wanted now e' := by
  obtain ⟨e', answer, hstep, houtcome⟩ := step_answers h
  cases answer with
  | result result => exact ⟨e', result, hstep, by simpa [Answer.outcome] using houtcome⟩
  | ticket ticket =>
    cases wanted with
    | update policy declaration generation => cases hstep
    | commit committed =>
      obtain ⟨entry, -, heq⟩ := Option.map_eq_some_iff.1 hstep
      cases heq
  | view view =>
    cases wanted with
    | update policy declaration generation => cases hstep
    | commit committed =>
      obtain ⟨entry, -, heq⟩ := Option.map_eq_some_iff.1 hstep
      cases heq

end Scenario

open Scenario in
/-- Whoever has the ticket of a deferred evaluation can commit it over the wire. -/
theorem deferred_commit_offered :
    ∃ e', Granted config (after (challenged ++ [defers])) speaker (.commit deferred) 4 e' ∧
      (commitFrame deferred).Achieves config (after (challenged ++ [defers])) speaker
        (.commit deferred) e' := by
  obtain ⟨e', hgranted⟩ := grants_granted
    (by decide +kernel : grants (challenged ++ [defers]) (.commit deferred) 4 = true)
  have hdecodes : CommitDecisionMessage.decode (Wire.encodeTicket deferred) =
      some { ticket := deferred } := by
    decide +kernel
  have hticket := (CommitDecisionMessage.lawful.writes _ _ hdecodes).1
  have hlength : (Wire.encodeTicket deferred).length ≤ 4096 := by decide +kernel
  exact ⟨e', hgranted, (wire_withholds config _ _ fun _ => commitFrame deferred).2.2 deferred 4 e' rfl
    (short_fits hticket hlength) hgranted⟩

open Scenario in
/-- An update the engine would make of a policy at its first generation, and no frame makes. -/
theorem update_unreachable :
    Engine.Reachable config (after created) ∧ ∃ record e',
      (after created).state.policies[policy]? = some record ∧
      Granted config (after created) speaker
        (.update policy ⟨record.policy.scope, record.policy.semantics⟩ record.policy.generation) 4 e' ∧
      ∀ frame : Wire.Frame, ¬ frame.Achieves config (after created) speaker
        (.update policy ⟨record.policy.scope, record.policy.semantics⟩ record.policy.generation)
        e' := by
  obtain ⟨record, hrecord, hgrants⟩ : ∃ record, (after created).state.policies[policy]? = some record ∧
      grants created (.update policy ⟨record.policy.scope, record.policy.semantics⟩
        record.policy.generation) 4 = true :=
    (Option.any_eq_true _ _).1 (by decide +kernel)
  obtain ⟨e', hgranted⟩ := grants_granted hgrants
  exact ⟨reachable_after (by decide +kernel), record, e', hrecord, hgranted,
    update_not_offered hgranted⟩

end AdaptiveRouting
