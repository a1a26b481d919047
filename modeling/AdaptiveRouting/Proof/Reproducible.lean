import AdaptiveRouting.Proof.Decisions
import AdaptiveRouting.Proof.TwinPhases

/-!
# Reproducible decisions

A decision's digest reads its face only, and the decisions phase two composes over twins have one face
(`suppressedDecision_face`, `committedDecision_face`). What a commit adds is determined by what it comes
to (`State.conclusion`, `CommitEffect.concluded`), and twins come to the same (`State.Twin.conclusion`).
So engines that tell apart identities, boots, sessions, attempts and the origin of their clocks only
record decisions of one digest (`digests_reproducible`).
-/

namespace AdaptiveRouting

open Guard Engine

/-! ## Digests -/

/-- A decision without its identities, its instants and its provenance. -/
def AdaptationDecision.face (d : AdaptationDecision) : AdaptationDecision :=
  { d with
    id := default, evidenceSnapshot := default, digest := [], evaluatedAt := 0, committedAt := 0
    provenance := {} }

/-- Decisions of one face have one digest. -/
theorem AdaptationDecision.told_face {d d' : AdaptationDecision} (h : d'.face = d.face)
    (hd : d.digest = decisionDigest d) (hd' : d'.digest = decisionDigest d') :
    (d'.lifecycle, d'.digest) = (d.lifecycle, d.digest) := by
  have hlifecycle : d'.lifecycle = d.lifecycle := (congrArg AdaptationDecision.lifecycle h :)
  have hdigest : decisionDigest d' = decisionDigest d := (congrArg decisionDigest h :)
  rw [hlifecycle, hd, hd', hdigest]

section
variable {t : Translation} {s s' : State} (h : s.Twin t s') {record record' : PolicyRecord}
  (hrecord : record'.face t.offset = record.face 0) {ticket ticket' : EvaluationTicket}
  (hticket : ticket'.face = ticket.face)
include h hrecord hticket

theorem suppressedDecision_face (context context' : MutationContext) (id id' : AdaptationDecisionId) :
    (s'.suppressedDecision record' { ticket := ticket', context := context' } id').face =
      (s.suppressedDecision record { ticket, context } id).face := by
  have hstate (record : PolicyRecord) (request : CommitDecisionRequest) :
      (s'.suppressedDecision record request default).face =
        (s.suppressedDecision record request default).face := by
    unfold State.suppressedDecision AdaptationDecision.face
    dsimp only
    rw [h.epoch, h.authorityGeneration, h.evidenceGeneration, h.evidenceWatermark, h.upstreamWatermark]
  have hread (s : State) (origin : Int) (record : PolicyRecord) (ticket : EvaluationTicket)
      (context : MutationContext) (id : AdaptationDecisionId) :
      (s.suppressedDecision record { ticket, context } id).face =
        (s.suppressedDecision (record.face origin).1
          { ticket := ticket.face, context := {} } default).face := rfl
  rw [hread s' t.offset, hread s 0, hrecord, hticket, hstate]

theorem committedDecision_face (now now' : Ticks) (context context' : MutationContext)
    (target : CandidateRecord) (adaptation : AdaptationGeneration)
    (transitionGeneration : TransitionGeneration) (transition transition' : TransitionPlanId)
    (id id' : AdaptationDecisionId) :
    (s'.committedDecision now' record' ticket' (s'.committedPreference now' record' ticket' context' target
        adaptation transitionGeneration transition' id')).face =
      (s.committedDecision now record ticket (s.committedPreference now record ticket context target
        adaptation transitionGeneration transition id)).face := by
  have hstate (record : PolicyRecord) (ticket : EvaluationTicket) :
      (s'.committedDecision 0 record ticket (s'.committedPreference 0 record ticket {} target adaptation
        transitionGeneration default default)).face =
      (s.committedDecision 0 record ticket (s.committedPreference 0 record ticket {} target adaptation
        transitionGeneration default default)).face := by
    unfold State.committedDecision AdaptationDecision.face
    dsimp only
    rw [h.epoch, h.authorityGeneration]
    rfl
  have hread (s : State) (origin : Int) (now : Ticks) (record : PolicyRecord) (ticket : EvaluationTicket)
      (context : MutationContext) (transition : TransitionPlanId) (id : AdaptationDecisionId) :
      (s.committedDecision now record ticket (s.committedPreference now record ticket context target
        adaptation transitionGeneration transition id)).face =
      (s.committedDecision 0 (record.face origin).1 ticket.face (s.committedPreference 0
        (record.face origin).1 ticket.face {} target adaptation transitionGeneration default
        default)).face := rfl
  rw [hread s' t.offset, hread s 0, hrecord, hticket, hstate]

end

/-! ## What is recorded -/

/-- What a step adds to the journal and to the history of a policy: nothing, or a decision. -/
inductive Adds (limits : Limits) (now : Ticks) (s s' : State) : Option AdaptationDecision → Prop
  | nothing (journal : s'.decisionJournal = s.decisionJournal) (policies : s'.policies = s.policies) :
      Adds limits now s s' none
  | decision {policy : AdaptivePolicyId} {record record' : PolicyRecord} {decision : AdaptationDecision}
      (digest : decision.digest = decisionDigest decision)
      (found : s.policies[policy]? = some record)
      (history : record'.history =
        keepLast limits.maxHistoryPerPolicy (record.history ++ [historyEntry decision now]))
      (policies : s'.policies = s.policies.insert policy record')
      (journal : s'.decisionJournal =
        keepLast limits.maxDecisionHistory (s.decisionJournal ++ [decision])) :
      Adds limits now s s' (some decision)

theorem Adds.digest {limits : Limits} {now : Ticks} {s s' : State} {decision : AdaptationDecision}
    (h : Adds limits now s s' (some decision)) : decision.digest = decisionDigest decision := by
  cases h
  assumption

/-- What phase two comes to: nothing to record, a refusal to adapt, or a verified target. -/
def State.conclusion (s : State) (limits : Limits) (now : Ticks) (request : CommitDecisionRequest) :
    Except Unit
      (PolicyRecord × Option (CandidateRecord × AdaptationGeneration × TransitionGeneration)) := do
  let record ← (s.commitChecks request).mapError fun _ => ()
  if request.ticket.lifecycle ≠ .eligible then return (record, none)
  else do
    refuseIf (alreadyCurrent record request.ticket) ()
    let verified ← (s.verifyCommit limits now record request.ticket).mapError fun _ => ()
    return (record, some verified)

/-- What a commit that comes to a conclusion adds. -/
inductive Concluded (limits : Limits) (s s₁ : State) (now : Ticks) (request : CommitDecisionRequest) :
    Except Unit
      (PolicyRecord × Option (CandidateRecord × AdaptationGeneration × TransitionGeneration)) →
    Option AdaptationDecision → Prop
  | idle (adds : Adds limits now s s₁ none) : Concluded limits s s₁ now request (.error ()) none
  | suppressed {record : PolicyRecord} {id : AdaptationDecisionId}
      (adds : Adds limits now s s₁ (some (s.suppressedDecision record request id))) :
      Concluded limits s s₁ now request (.ok (record, none))
        (some (s.suppressedDecision record request id))
  | committed {record : PolicyRecord} {target : CandidateRecord} {adaptation : AdaptationGeneration}
      {transitionGeneration : TransitionGeneration} {transition : TransitionPlanId}
      {id : AdaptationDecisionId}
      (adds : Adds limits now s s₁ (some (s.committedDecision now record request.ticket
        (s.committedPreference now record request.ticket request.context target adaptation
          transitionGeneration transition id)))) :
      Concluded limits s s₁ now request (.ok (record, some (target, adaptation, transitionGeneration)))
        (some (s.committedDecision now record request.ticket
          (s.committedPreference now record request.ticket request.context target adaptation
            transitionGeneration transition id)))

section
variable {limits : Limits} {s s' s₁ s₁' : State} {now now' : Ticks} {outcome outcome' : Outcome}

theorem CommitEffect.concluded {request : CommitDecisionRequest}
    (h : CommitEffect limits s now request s₁ outcome) :
    ∃ recorded, Concluded limits s s₁ now request (s.conclusion limits now request) recorded := by
  have hjournal (s : State) (attempt : MutationAttemptId) (fingerprint : Text) (outcome : Outcome)
      (detail : Text) : (s.recordAttempt limits attempt fingerprint outcome detail).decisionJournal =
        s.decisionJournal :=
    congrArg State.Shelves.decisionJournal (State.shelves_aloof.recordAttempt ..)
  unfold State.conclusion
  cases h with
  | refused checks =>
    rw [checks]
    exact ⟨_, .idle (.nothing rfl rfl)⟩
  | @suppressed record id decision checks ineligible decides =>
    obtain ⟨_, haccepted⟩ := State.commitChecks_ok checks
    rw [bind_of (mapError_of checks), if_pos ineligible]
    subst decides
    exact ⟨_, .suppressed (.decision rfl haccepted.found rfl (State.recordAttempt_policies ..)
      (hjournal ..))⟩
  | unchanged checks eligible current =>
    rw [bind_of (mapError_of checks), if_neg (not_not_intro eligible), current]
    exact ⟨_, .idle (.nothing (hjournal ..) (State.recordAttempt_policies ..))⟩
  | unverified checks eligible other verified =>
    rw [bind_of (mapError_of checks), if_neg (not_not_intro eligible), seq_of other, verified]
    exact ⟨_, .idle (.nothing rfl rfl)⟩
  | committed checks eligible other verified installs =>
    obtain ⟨_, haccepted⟩ := State.commitChecks_ok checks
    rw [bind_of (mapError_of checks), if_neg (not_not_intro eligible), seq_of other,
      bind_of (mapError_of verified)]
    subst installs
    exact ⟨_, .committed (.decision rfl haccepted.found rfl (State.recordAttempt_policies ..)
      (hjournal ..))⟩

end

/-- Two steps add nothing, or decisions of one lifecycle and one digest. -/
def AddAlike (limits : Limits) (now now' : Ticks) (s s₁ s' s₁' : State) : Prop :=
  ∃ recorded recorded', Adds limits now s s₁ recorded ∧ Adds limits now' s' s₁' recorded' ∧
    recorded'.map (fun d => (d.lifecycle, d.digest)) = recorded.map fun d => (d.lifecycle, d.digest)

theorem AddAlike.unmoved {limits : Limits} {now now' : Ticks} {s s₁ s' s₁' : State} (h : s₁ = s)
    (h' : s₁' = s') : AddAlike limits now now' s s₁ s' s₁' := by
  subst h h'
  exact ⟨none, none, .nothing rfl rfl, .nothing rfl rfl, rfl⟩

theorem EvaluationTicket.Alike.rejected {ticket ticket' : EvaluationTicket} (h : ticket.Alike ticket') :
    ticket'.lifecycle = .rejected ↔ ticket.lifecycle = .rejected := by
  rcases h with h | ⟨h, h'⟩
  · have hlifecycle : ticket'.lifecycle = ticket.lifecycle :=
      (congrArg EvaluationTicket.lifecycle h :)
    rw [hlifecycle]
  · exact iff_of_true h' h

section
variable {t : Translation} {limits : Limits} {s s' s₁ s₁' : State} {now now' : Ticks}
  {ticket ticket' : EvaluationTicket} {outcome outcome' : Outcome}

theorem State.Twin.conclusion (h : s.Twin t s') (limits : Limits) (hnow : t.Reads now now')
    (hticket : ticket'.face = ticket.face) (context : MutationContext) :
    Lockstep (fun _ _ => True) (fun concluded concluded' =>
        concluded'.1.face t.offset = concluded.1.face 0 ∧ concluded'.2 = concluded.2)
      (s.conclusion limits now { ticket, context })
      (s'.conclusion limits now' { ticket := ticket', context := context.translate t }) := by
  have hlifecycle : ticket'.lifecycle = ticket.lifecycle :=
    (congrArg EvaluationTicket.lifecycle hticket :)
  have htarget : ticket'.targetPreference = ticket.targetPreference :=
    (congrArg EvaluationTicket.targetPreference hticket :)
  unfold State.conclusion
  refine ((h.commitChecks hticket context).mapError fun _ _ _ => trivial).bind
    fun record record' hrecord => ?_
  have hpreference := PolicyRecord.preference_face hrecord
  have hestablished : record'.preference.established = record.preference.established :=
    (congrArg RoutingPreference.established hpreference :)
  have hpreferred : record'.preference.preferredPath = record.preference.preferredPath :=
    (congrArg RoutingPreference.preferredPath hpreference :)
  dsimp only
  rw [hlifecycle]
  refine .ite (.ended ⟨hrecord, rfl⟩) (.seq ?_ trivial ?_)
  · unfold alreadyCurrent
    rw [hestablished, hpreferred, htarget]
  · refine ((h.verifyCommit limits hnow hrecord hticket).mapError fun _ _ _ => trivial).bind ?_
    rintro verified _ rfl
    exact .ended ⟨hrecord, rfl⟩

/-- Commits of the same ticket over twins add decisions of one digest. -/
theorem State.Twin.commit (h : s.Twin t s') (hnow : t.Reads now now') (hticket : ticket.Alike ticket')
    {context : MutationContext} (heffect : CommitEffect limits s now { ticket, context } s₁ outcome)
    (heffect' : CommitEffect limits s' now'
      { ticket := ticket', context := context.translate t } s₁' outcome') :
    AddAlike limits now now' s s₁ s' s₁' := by
  rcases hticket with hticket | ⟨hrejected, hrejected'⟩
  · have hlockstep := h.conclusion limits hnow hticket context
    obtain ⟨recorded, hconcluded⟩ := heffect.concluded
    obtain ⟨recorded', hconcluded'⟩ := heffect'.concluded
    generalize s.conclusion limits now { ticket, context } = concluded at hlockstep hconcluded
    generalize s'.conclusion limits now' { ticket := ticket', context := context.translate t } =
      concluded' at hlockstep hconcluded'
    cases hlockstep with
    | refused =>
      cases hconcluded with
      | idle adds =>
        cases hconcluded' with
        | idle adds' => exact ⟨none, none, adds, adds', rfl⟩
    | ended hended =>
      cases hconcluded with
      | suppressed adds =>
        obtain ⟨hrecord, hnone⟩ := hended
        cases hconcluded' with
        | suppressed adds' =>
          exact ⟨_, _, adds, adds', congrArg some (AdaptationDecision.told_face
            (suppressedDecision_face h hrecord hticket ..) adds.digest adds'.digest)⟩
        | committed => cases hnone
      | committed adds =>
        obtain ⟨hrecord, hsome⟩ := hended
        cases hconcluded' with
        | suppressed => cases hsome
        | committed adds' =>
          cases hsome
          exact ⟨_, _, adds, adds', congrArg some (AdaptationDecision.told_face
            (committedDecision_face h hrecord hticket ..) adds.digest adds'.digest)⟩
  · exact .unmoved (heffect.rejected hrejected).1 (heffect'.rejected hrejected').1

end

/-- Evaluations of a policy over twins, committed at once, add decisions of one digest. -/
theorem Engine.Twin.evaluate {t : Translation} {e e' : Engine} (h : e.Twin t e') {limits : Limits}
    {begun begun' now now' : Ticks} (hbegun : t.Reads begun begun') (hnow : t.Reads now now')
    {request : EvaluateRequest} {f f' : Engine} {result result' : OperationResult}
    (hrun : AdaptiveRouting.evaluate limits e begun now request = some (f, result))
    (hrun' : AdaptiveRouting.evaluate limits e' begun' now' (request.translate t) = some (f', result')) :
    AddAlike limits now now' e.state f.state e'.state f'.state := by
  obtain ⟨e₁, ticket, hbegin, hcase⟩ := evaluate_phases hrun
  obtain ⟨e₁', ticket', hbegin', hcase'⟩ := evaluate_phases hrun'
  obtain ⟨-, hticket⟩ := h.beginEvaluation hbegun hbegin hbegin'
  -- a run that stops before the commit while the other one commits was refused
  rcases hcase with ⟨hstate, -, hends⟩ | ⟨hcommits, heffect⟩ <;>
    rcases hcase' with ⟨hstate', -, hends'⟩ | ⟨hcommits', heffect'⟩
  · exact .unmoved hstate hstate'
  · have hrejected := hends.resolve_left fun hdefer => by cases hdefer.symm.trans hcommits'
    exact .unmoved hstate (heffect'.rejected (hticket.rejected.2 hrejected)).1
  · have hrejected := hends'.resolve_left fun hdefer => by cases hdefer.symm.trans hcommits
    exact .unmoved (heffect.rejected (hticket.rejected.1 hrejected)).1 hstate'
  · exact h.state.commit hnow hticket heffect heffect'

/-- Two engines that tell apart identities, boots, sessions, attempts and a constant clock offset only:
evaluated at the same instants, a policy gets the same ticket or is refused on both, and the commits of
the same ticket, at once or later, record decisions of one digest on both or on neither. -/
theorem digests_reproducible {config : EngineConfig} {t : Translation} {e e' : Engine}
    (twins : e.Twin t e') {begun begun' now now' : Ticks} (hbegun : t.Reads begun begun')
    (hnow : t.Reads now now') {f f' : Engine} {answer answer' : Answer} :
    (∀ request, e.step config (.evaluate begun now request) = some (f, answer) →
      e'.step config (.evaluate begun' now' (request.translate t)) = some (f', answer') →
      AddAlike config.limits now now' e.state f.state e'.state f'.state) ∧
    (∀ request ticket ticket',
      e.step config (.beginEvaluation begun request) = some (f, .ticket ticket) →
      e'.step config (.beginEvaluation begun' (request.translate t)) = some (f', .ticket ticket') →
      f.Twin t f' ∧ ticket.Alike ticket') ∧
    ∀ ticket ticket' context, ticket.Alike ticket' →
      e.step config (.commitEvaluation now { ticket, context }) = some (f, answer) →
      e'.step config (.commitEvaluation now' { ticket := ticket', context := context.translate t }) =
        some (f', answer') →
      AddAlike config.limits now now' e.state f.state e'.state f'.state := by
  refine ⟨fun request h h' => ?_, fun request ticket ticket' h h' => ?_,
    fun ticket ticket' context hticket h h' => ?_⟩
  · obtain ⟨⟨f₁, result⟩, hrun, hf⟩ := Option.map_eq_some_iff.1 h
    obtain ⟨⟨f₁', result'⟩, hrun', hf'⟩ := Option.map_eq_some_iff.1 h'
    cases hf
    cases hf'
    exact twins.evaluate hbegun hnow hrun hrun'
  · obtain ⟨⟨f₁, issued⟩, hrun, hf⟩ := Option.map_eq_some_iff.1 h
    obtain ⟨⟨f₁', issued'⟩, hrun', hf'⟩ := Option.map_eq_some_iff.1 h'
    cases hf
    cases hf'
    exact twins.beginEvaluation hbegun hrun hrun'
  · obtain ⟨⟨f₁, result⟩, hrun, hf⟩ := Option.map_eq_some_iff.1 h
    obtain ⟨⟨f₁', result'⟩, hrun', hf'⟩ := Option.map_eq_some_iff.1 h'
    cases hf
    cases hf'
    exact twins.state.commit hnow hticket (commitEvaluation_cases hrun) (commitEvaluation_cases hrun')

/-! ## A second deployment -/

/-- The tables of unfenced engines list what those of twins do. -/
def Engine.listsTwin (t : Translation) (e e' : Engine) : Bool :=
  (e'.state.epoch, e'.state.authorityGeneration, e'.state.evidenceGeneration, e'.state.evidenceWatermark,
    e'.state.upstreamWatermark, e'.outstanding) =
  (e.state.epoch, e.state.authorityGeneration, e.state.evidenceGeneration, e.state.evidenceWatermark,
    e.state.upstreamWatermark, e.outstanding) &&
  e.state.fencedBoots.isEmpty && e'.state.fencedBoots.isEmpty &&
  (e'.state.policies.toList.map fun entry => (entry.1, entry.2.face t.offset)).isPerm
    (e.state.policies.toList.map fun entry => (entry.1, entry.2.face 0)) &&
  (e'.state.evidence.toList.map fun entry => (entry.1, entry.2.face t.offset)).isPerm
    (e.state.evidence.toList.map fun entry => (entry.1, entry.2.face 0)) &&
  (e'.state.registrations.toList.map fun entry =>
      (entry.1, entry.2.scope, entry.2.workerBoot, entry.2.session)).isPerm
    (e.state.registrations.toList.map fun entry =>
      (entry.1, entry.2.scope, t.boots.apply entry.2.workerBoot, t.sessions.apply entry.2.session)) &&
  (e'.state.attempts.toList.map fun entry => (entry.1, entry.2.fingerprint)).isPerm
    (e.state.attempts.toList.map fun entry => (t.attempts.apply entry.1, entry.2.fingerprint))

theorem Engine.Twin.of_lists {t : Translation} {e e' : Engine} (h : e.listsTwin t e' = true) :
    e.Twin t e' := by
  simp only [Engine.listsTwin, Bool.and_eq_true, decide_eq_true_eq, Prod.mk.injEq,
    List.isPerm_iff] at h
  obtain ⟨⟨⟨⟨⟨⟨hcounters, hunfenced⟩, hunfenced'⟩, hpolicies⟩, hevidence⟩, hregistrations⟩, hattempts⟩ := h
  obtain ⟨hepoch, hauthority, hgeneration, hwatermark, hupstream, houtstanding⟩ := hcounters
  refine ⟨⟨hepoch, hauthority, hgeneration, hwatermark, hupstream,
    Pointwise.getElem?_renamed Function.injective_id hpolicies,
    Pointwise.getElem?_renamed Function.injective_id hevidence,
    Pointwise.getElem?_renamed Function.injective_id hregistrations, fun boot => ?_,
    Pointwise.getElem?_renamed t.attempts.injective hattempts⟩, houtstanding⟩
  rw [Std.ExtTreeSet.isEmpty_iff.1 hunfenced, Std.ExtTreeSet.isEmpty_iff.1 hunfenced',
    Std.ExtTreeSet.contains_empty, Std.ExtTreeSet.contains_empty]

namespace Scenario

/-- Another incarnation and session of the publisher, two attempts named the other way round, and a
clock that is ahead. -/
def relocation : Translation where
  boots := .swap boot nextBoot (by decide)
  sessions := .swap session (name "other-session") (by decide)
  attempts := .swap (name "create") (name "establish") (by decide)
  offset := 5000

def there (attempt : String) : MutationContext := (context 1 attempt).translate relocation

/-- The deployment before its first evaluation, on the other engine. -/
def readiedThere : List Op :=
  [.registerPublisher publisher nextBoot scope (name "other-session"),
    .createPolicy 5000 { create 1 with context := there "create" },
    .transitionPolicy { policy, event := .activate, context := there "activate" },
    .snapshot 5000 policy,
    .applyUpstream { notifications := [declare left], context := there "left" },
    .publishEvidence (fun _ => 5001) {
      publications := [{ source := name "source", sourceGeneration := ⟨1⟩, path := left
                         value := latency 100, observationSequence := 1 }]
      context := there "left-evidence" }]

def readied : List Op :=
  [register, .createPolicy 0 (create 1), activate, notify (declare left) "left",
    publish left 100 "left-evidence"]

def preferred : List Op := readied ++ [.evaluate 2 2 (evaluation "establish")]

def preferredThere : List Op :=
  readiedThere ++ [.evaluate 5002 5002 ((evaluation "establish").translate relocation)]

def repeated : List Op := preferred ++ [.evaluate 3 3 (evaluation "again")]

def repeatedThere : List Op :=
  preferredThere ++ [.evaluate 5003 5003 ((evaluation "again").translate relocation)]

theorem readied_twins : (after readied).Twin relocation (after readiedThere) :=
  Engine.Twin.of_lists (by decide +kernel)

theorem preferred_twins : (after preferred).Twin relocation (after preferredThere) :=
  Engine.Twin.of_lists (by decide +kernel)

end Scenario

open Scenario in
/-- The first preference is established on both engines, and found to be the best one afterwards. -/
theorem establish_reproducible :
    AddAlike config.limits 2 5002 (after readied).state (after preferred).state
      (after readiedThere).state (after preferredThere).state ∧
    AddAlike config.limits 3 5003 (after preferred).state (after repeated).state
      (after preferredThere).state (after repeatedThere).state ∧
    (after repeated).state.decisionJournal.map (·.lifecycle) = [.committed, .suppressed] ∧
    (after repeatedThere).state.decisionJournal.map (·.id) ≠
      (after repeated).state.decisionJournal.map (·.id) ∧
    (after repeatedThere).state.decisionJournal.map (·.digest) =
      (after repeated).state.decisionJournal.map (·.digest) := by
  obtain ⟨_, hestablish⟩ := step_after readied (.evaluate 2 2 (evaluation "establish")) (by decide +kernel)
  obtain ⟨_, hestablish'⟩ := step_after readiedThere
    (.evaluate 5002 5002 ((evaluation "establish").translate relocation)) (by decide +kernel)
  obtain ⟨_, hagain⟩ := step_after preferred (.evaluate 3 3 (evaluation "again")) (by decide +kernel)
  obtain ⟨_, hagain'⟩ := step_after preferredThere
    (.evaluate 5003 5003 ((evaluation "again").translate relocation)) (by decide +kernel)
  refine ⟨?_, ?_, by decide +kernel⟩
  · exact (digests_reproducible readied_twins (by decide) (by decide)).1 _ hestablish hestablish'
  · exact (digests_reproducible preferred_twins (by decide) (by decide)).1 _ hagain hagain'

end AdaptiveRouting
