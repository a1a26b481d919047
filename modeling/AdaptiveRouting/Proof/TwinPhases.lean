import AdaptiveRouting.Proof.Caller
import AdaptiveRouting.Proof.Twins

/-!
# Both phases over twins

The gates, the establishment and the adaptation write tickets of one face from tickets of one face, so
phase one over twins issues tickets that say the same (`Engine.Twin.beginEvaluation`), and the checks
and the verification of phase two agree on such tickets (`State.Twin.commitChecks`,
`State.Twin.verifyCommit`). Both are run in lockstep, one rule for each guard.
-/

namespace AdaptiveRouting

open Guard Engine

/-! ## Tickets -/

/-- Dependencies without the evaluation they were captured for, and when. -/
def DependencySnapshot.face (d : DependencySnapshot) : DependencySnapshot :=
  { d with evaluation := default, capturedAt := 0 }

/-- A ticket without its identities and its instants. -/
def EvaluationTicket.face (ticket : EvaluationTicket) : EvaluationTicket :=
  { ticket with
    dependencies := ticket.dependencies.face, decision := default, evidenceSnapshot := default
    evaluatedAt := 0 }

/-- The tickets differ in identities and instants, or both evaluations were refused: the text of a
refusal may name a boot. -/
def EvaluationTicket.Alike (ticket ticket' : EvaluationTicket) : Prop :=
  ticket'.face = ticket.face ∨ ticket.lifecycle = .rejected ∧ ticket'.lifecycle = .rejected

/-- Gates on tickets of one face pass on tickets of one face, or refuse with such. -/
abbrev InStep (x x' : Gate) : Prop :=
  Lockstep (fun t t' => t'.face = t.face) (fun t t' => t'.face = t.face) x x'

section
variable {ticket ticket' : EvaluationTicket} (h : ticket'.face = ticket.face)
include h

theorem EvaluationTicket.suppress_face (reason : SuppressionReason) (outcome : Outcome)
    (detail : Text) : (ticket'.suppress reason outcome detail).face =
      (ticket.suppress reason outcome detail).face :=
  congrArg (·.suppress reason outcome detail) h

theorem EvaluationTicket.towards_face (best : CandidateEvaluation) :
    (ticket'.towards best).face = (ticket.towards best).face :=
  congrArg (·.towards best) h

theorem EvaluationTicket.ranking_face : ticket'.ranking = ticket.ranking :=
  (congrArg EvaluationTicket.ranking h :)

end

namespace EvaluationInputs

open EvaluationTicket

section
variable (inputs : EvaluationInputs) (best : CandidateEvaluation) {ticket ticket' : EvaluationTicket}
  (h : ticket'.face = ticket.face)
include h

theorem holdDownGate_face : InStep (inputs.holdDownGate best ticket) (inputs.holdDownGate best ticket') := by
  unfold holdDownGate
  exact .ite (.refused (suppress_face h ..)) (.ended h)

theorem cooldownGate_face : InStep (inputs.cooldownGate ticket) (inputs.cooldownGate ticket') := by
  unfold cooldownGate
  exact .ite (.refused (suppress_face h ..)) (.ended h)

theorem churnGate_face : InStep (inputs.churnGate ticket) (inputs.churnGate ticket') := by
  unfold churnGate
  exact .ite (.refused (suppress_face h ..)) (.ended h)

theorem ruleValues_face (kind : MetricKind) {missing missing' : EvaluationTicket}
    (hmissing : missing'.face = missing.face) (what : Text) :
    Lockstep (fun t t' => t'.face = t.face) (fun values values' => values' = values)
      (inputs.ruleValues ticket best kind missing what)
      (inputs.ruleValues ticket' best kind missing' what) := by
  unfold ruleValues
  cases inputs.policy.semantics.findRequirement kind with
  | none => exact .refused hmissing
  | some requirement =>
    cases inputs.currentBinding with
    | none => exact .refused hmissing
    | some current =>
      dsimp only
      cases inputs.lookupMetric current.binding.path requirement with
      | error reason => exact .refused (suppress_face h ..)
      | ok values =>
        cases inputs.lookupMetric best.path requirement with
        | error reason => exact .refused (suppress_face h ..)
        | ok values => exact .ended rfl

theorem thresholdGate_face (rule : ThresholdRule) :
    InStep (inputs.thresholdGate best ticket rule) (inputs.thresholdGate best ticket' rule) := by
  unfold thresholdGate
  refine (inputs.ruleValues_face best h rule.kind (suppress_face h ..) _).bind ?_
  rintro values _ rfl
  exact .seq rfl (suppress_face h ..) (.seq rfl (suppress_face h ..) (.ended h))

theorem improvementGate_face (rule : ImprovementRule) :
    InStep (inputs.improvementGate best ticket rule) (inputs.improvementGate best ticket' rule) := by
  unfold improvementGate
  refine (inputs.ruleValues_face best h rule.kind (suppress_face h ..) _).bind ?_
  rintro ⟨current, candidate⟩ _ rfl
  dsimp only
  refine Lockstep.bind (E := fun t t' : EvaluationTicket => t'.face = t.face)
    (.lookup _ (suppress_face h ..)) ?_
  rintro _ improvement rfl
  have hnoted (required : UInt32) :
      ({ ticket' with improvementBps := some improvement, requiredImprovementBps := required } :
        EvaluationTicket).face =
      ({ ticket with improvementBps := some improvement, requiredImprovementBps := required } :
        EvaluationTicket).face :=
    congrArg (fun t : EvaluationTicket =>
      { t with improvementBps := some improvement, requiredImprovementBps := required }) h
  exact .seq rfl (suppress_face (hnoted _) ..) (.ended (hnoted _))

theorem ordinaryGates_face :
    InStep (inputs.ordinaryGates best ticket) (inputs.ordinaryGates best ticket') := by
  unfold ordinaryGates
  refine (inputs.holdDownGate_face best h).bind fun t₁ t₁' h₁ => ?_
  refine (inputs.cooldownGate_face h₁).bind fun t₂ t₂' h₂ => ?_
  refine (Lockstep.foldlM (fun rule _ _ h => inputs.thresholdGate_face best h rule) h₂ _).bind
    fun t₃ t₃' h₃ => ?_
  refine (Lockstep.foldlM (fun rule _ _ h => inputs.improvementGate_face best h rule) h₃ _).bind
    fun t₄ t₄' h₄ => ?_
  exact inputs.churnGate_face h₄

theorem incumbentTicket_face : (inputs.incumbentTicket ticket').face = (inputs.incumbentTicket ticket).face := by
  unfold incumbentTicket
  rw [ranking_face h]
  dsimp only
  split
  · exact suppress_face h ..
  · split <;> exact suppress_face h ..

theorem adapt_face : (inputs.adapt ticket' best).face = (inputs.adapt ticket best).face := by
  have hpassed {t t' : EvaluationTicket} (h : t'.face = t.face) (detail : Text) :
      ({ t' with weightProposal := inputs.proposeWeights best, lifecycle := .eligible, detail } :
        EvaluationTicket).face =
      ({ t with weightProposal := inputs.proposeWeights best, lifecycle := .eligible, detail } :
        EvaluationTicket).face :=
    congrArg (fun t : EvaluationTicket =>
      { t with weightProposal := inputs.proposeWeights best, lifecycle := .eligible, detail }) h
  unfold adapt
  rw [ranking_face h]
  cases inputs.emergencyReason with
  | some reason =>
    cases inputs.currentEligible ticket.ranking with
    | true => exact hpassed h _
    | false => exact hpassed (inputs.incumbentTicket_face h) _
  | none =>
    cases inputs.currentEligible ticket.ranking with
    | true =>
      have hgates := inputs.ordinaryGates_face best h
      simp only [↓reduceIte]
      generalize inputs.ordinaryGates best ticket = gated at hgates ⊢
      generalize inputs.ordinaryGates best ticket' = gated' at hgates ⊢
      cases hgates with
      | refused h => exact h
      | ended h => exact hpassed h _
    | false => exact inputs.incumbentTicket_face h

theorem establish_face : (inputs.establish ticket' best).face = (inputs.establish ticket best).face := by
  unfold establish
  split
  · exact suppress_face h ..
  · exact congrArg (fun t : EvaluationTicket => { t.towards best with
      lifecycle := .eligible
      detail := "initial routing preference established from policy and current evidence" }) h

end

/-- Inputs captured from twins, with the same dependencies, are evaluated to tickets of one face. -/
theorem Twin.evaluate {t : Translation} {inputs inputs' : EvaluationInputs} (h : inputs.Twin t inputs')
    {dependencies dependencies' : DependencySnapshot} (hd : dependencies'.face = dependencies.face) :
    (inputs'.evaluate dependencies').face = (inputs.evaluate dependencies).face := by
  have hadaptation : inputs'.preference.adaptationGeneration = inputs.preference.adaptationGeneration :=
    (congrArg RoutingPreference.adaptationGeneration h.preference :)
  have htransition : inputs'.preference.transitionGeneration = inputs.preference.transitionGeneration :=
    (congrArg RoutingPreference.transitionGeneration h.preference :)
  have hblank : (inputs'.blankTicket dependencies').face = (inputs.blankTicket dependencies).face := by
    unfold blankTicket EvaluationTicket.face
    dsimp only
    rw [hd, h.established, h.preferredPath, hadaptation, htransition, h.rank]
  have hbest : (inputs'.blankTicket dependencies').ranking.find? (·.eligible) =
      (inputs.blankTicket dependencies).ranking.find? (·.eligible) := by
    rw [ranking_face hblank]
  unfold EvaluationInputs.evaluate
  dsimp only
  rw [hbest, h.established, h.preferredPath, h.emergencyReason, h.establish, h.adapt]
  split
  · exact suppress_face hblank ..
  · rename_i best _
    have hraised : ({ inputs'.blankTicket dependencies' with
          emergency := inputs.emergencyReason.isSome } : EvaluationTicket).face =
        ({ inputs.blankTicket dependencies with
          emergency := inputs.emergencyReason.isSome } : EvaluationTicket).face :=
      congrArg (fun t : EvaluationTicket => { t with emergency := inputs.emergencyReason.isSome }) hblank
    split
    · exact inputs.establish_face best hraised
    · split
      · exact suppress_face (towards_face hraised best) ..
      · exact inputs.adapt_face best (towards_face hraised best)

end EvaluationInputs

/-! ## Records of one face -/

namespace PolicyRecord

section
variable {o o' : Int} {record record' : PolicyRecord} (h : record'.face o' = record.face o)
include h

theorem id_face : record'.policy.id = record.policy.id := (congrArg (fun face => face.1.policy.id) h :)

theorem generation_face : record'.policy.generation = record.policy.generation :=
  (congrArg (fun face => face.1.policy.generation) h :)

theorem lifecycle_face : record'.policy.lifecycle = record.policy.lifecycle :=
  (congrArg (fun face => face.1.policy.lifecycle) h :)

theorem semantics_face : record'.policy.semantics = record.policy.semantics :=
  (congrArg (fun face => face.1.policy.semantics) h :)

theorem candidates_face : record'.candidates = record.candidates :=
  (congrArg (fun face => face.1.candidates) h :)

theorem preference_face : record'.preference.face = record.preference.face :=
  (congrArg (fun face => face.1.preference) h :)

theorem timing_face : record'.timing.face o' = record.timing.face o := congrArg Prod.snd h

end

end PolicyRecord

/-! ## Phase one -/

namespace State.Twin

section
variable {t : Translation} {s s' : State} (h : s.Twin t s') {record record' : PolicyRecord}
include h

theorem checkCaller (context : MutationContext) (route : Option RouteId) (set : Option MultipathSetId) :
    Lockstep (fun _ _ => True) (fun _ _ => True) (s.checkCaller context route set)
      (s'.checkCaller (context.translate t) route set) := by
  unfold State.checkCaller
  refine .seq (by rw [MutationContext.translate_identity]) trivial ?_
  refine .seq (by rw [h.epoch]; rfl) trivial ?_
  refine .seq (h.fencedBoots context.workerBoot) trivial ?_
  refine (Lockstep.found (h.registrations context.publisher) trivial).bind ?_
  intro registration registration' hregistration
  obtain ⟨hscope, hregistration⟩ := Prod.mk.inj hregistration
  obtain ⟨hboot, hsession⟩ := Prod.mk.inj hregistration
  refine .seq (by rw [hboot]; exact t.boots.bne ..) trivial ?_
  refine .seq (by rw [hsession]; exact t.sessions.bne ..) trivial ?_
  dsimp only
  rw [hscope]
  exact .seq rfl trivial (.seq rfl trivial (.seq rfl trivial (.ended trivial)))

theorem copyInputs (hrecord : record'.face t.offset = record.face 0) {now now' : Ticks}
    (hnow : t.Reads now now') (id id' : EvidenceSnapshotId) :
    (s.copyInputs now id record).Twin t (s'.copyInputs now' id' record') where
  semantics := PolicyRecord.semantics_face hrecord
  candidates := PolicyRecord.candidates_face hrecord
  preference := PolicyRecord.preference_face hrecord
  timing := PolicyRecord.timing_face hrecord
  evidence := h.captureEvidence_find (PolicyRecord.candidates_face hrecord)
    (PolicyRecord.semantics_face hrecord) now now' id id'
  now := hnow

theorem buildDependencies (hrecord : record'.face t.offset = record.face 0) (now now' : Ticks)
    (id id' : EvaluationId) :
    (s'.buildDependencies now' record' id').face = (s.buildDependencies now record id).face := by
  unfold State.buildDependencies DependencySnapshot.face
  dsimp only
  rw [h.epoch, h.authorityGeneration, h.evidenceGeneration, h.evidenceWatermark, h.upstreamWatermark,
    PolicyRecord.id_face hrecord, PolicyRecord.generation_face hrecord,
    PolicyRecord.semantics_face hrecord, PolicyRecord.candidates_face hrecord]

end

end State.Twin

namespace Engine.Twin

section
variable {t : Translation} {e e' : Engine} (h : e.Twin t e') {limits : Limits}
include h

theorem beginChecks (limits : Limits) (request : EvaluateRequest) :
    Lockstep (fun ticket ticket' => ticket.lifecycle = .rejected ∧ ticket'.lifecycle = .rejected)
      (fun record record' => record'.face t.offset = record.face 0)
      (AdaptiveRouting.beginChecks limits e request)
      (AdaptiveRouting.beginChecks limits e' (request.translate t)) := by
  unfold AdaptiveRouting.beginChecks
  refine .seq rfl ⟨rfl, rfl⟩ ?_
  refine .seq (by rw [h.outstanding]) ⟨rfl, rfl⟩ ?_
  refine (Lockstep.found (h.state.policies request.policy) ⟨rfl, rfl⟩).bind fun record record' hrecord => ?_
  rw [PolicyRecord.semantics_face hrecord, PolicyRecord.lifecycle_face hrecord,
    PolicyRecord.generation_face hrecord, h.state.evidenceGeneration]
  refine ((h.state.checkCaller request.context _ _).mapError ?_).bind fun _ _ _ => ?_
  · rintro ⟨_, _⟩ ⟨_, _⟩ -
    exact ⟨rfl, rfl⟩
  · exact .seq rfl ⟨rfl, rfl⟩ (.seq rfl ⟨rfl, rfl⟩ (.seq rfl ⟨rfl, rfl⟩ (.ended hrecord)))

/-- Phase one leaves twins, and tickets that say the same. -/
theorem beginEvaluation {now now' : Ticks} (hnow : t.Reads now now') {request : EvaluateRequest}
    {e₁ e₁' : Engine} {ticket ticket' : EvaluationTicket}
    (hbegin : AdaptiveRouting.beginEvaluation limits e now request = some (e₁, ticket))
    (hbegin' : AdaptiveRouting.beginEvaluation limits e' now' (request.translate t) =
      some (e₁', ticket')) : e₁.Twin t e₁' ∧ ticket.Alike ticket' := by
  have hchecks := h.beginChecks limits request
  unfold AdaptiveRouting.beginEvaluation at hbegin hbegin'
  generalize AdaptiveRouting.beginChecks limits e request = checked at hchecks hbegin
  generalize AdaptiveRouting.beginChecks limits e' (request.translate t) = checked' at hchecks hbegin'
  cases hchecks with
  | refused hrejected =>
    cases hbegin
    cases hbegin'
    exact ⟨h, .inr hrejected⟩
  | @ended record record' hrecord =>
    obtain ⟨⟨evaluation, ids₁⟩, -, hbegin⟩ := Option.bind_eq_some_iff.1 hbegin
    obtain ⟨⟨evidence, ids₂⟩, -, hbegin⟩ := Option.bind_eq_some_iff.1 hbegin
    obtain ⟨⟨decision, ids₃⟩, -, hbegin⟩ := Option.bind_eq_some_iff.1 hbegin
    obtain ⟨⟨evaluation', ids₁'⟩, -, hbegin'⟩ := Option.bind_eq_some_iff.1 hbegin'
    obtain ⟨⟨evidence', ids₂'⟩, -, hbegin'⟩ := Option.bind_eq_some_iff.1 hbegin'
    obtain ⟨⟨decision', ids₃'⟩, -, hbegin'⟩ := Option.bind_eq_some_iff.1 hbegin'
    cases hbegin
    cases hbegin'
    have houtstanding : e'.outstanding + 1 = e.outstanding + 1 := by rw [h.outstanding]
    refine ⟨⟨h.state, houtstanding⟩, .inl ?_⟩
    exact (h.state.copyInputs hrecord hnow evidence evidence').evaluate
      (h.state.buildDependencies hrecord now now' evaluation evaluation')

end

end Engine.Twin

/-! ## Phase two -/

/-- A hold-down that runs, read off the face. -/
theorem TimingState.running_face (origin : Int) (timing : TimingState) (now : Ticks) :
    (timing.holdDownActive && decide (now < timing.holdDownDeadline)) =
      (timing.face origin).holdDown.any fun deadline => elapsed origin now < deadline := by
  unfold face elapsed
  cases timing.holdDownActive with
  | false => rfl
  | true => simp [UInt64.lt_iff_toNat_lt]

namespace State.Twin

section
variable {t : Translation} {s s' : State} (h : s.Twin t s') {record record' : PolicyRecord}
  {ticket ticket' : EvaluationTicket} {now now' : Ticks}
include h

theorem refuseReplay (attempt : MutationAttemptId) (fingerprint : Text) :
    Lockstep (fun _ _ => True) (fun _ _ => True) (s.refuseReplay attempt fingerprint)
      (s'.refuseReplay (t.attempts.apply attempt) fingerprint) := by
  refine .absent ?_ fun _ _ _ _ => trivial
  have hattempts := h.attempts attempt
  unfold replayCheck
  rw [t.attempts.valid]
  split
  · rfl
  · cases hfound : s.attempts[attempt]? with
    | none =>
      rw [hfound] at hattempts
      rw [Option.map_eq_none_iff.1 hattempts]
    | some record =>
      rw [hfound] at hattempts
      obtain ⟨record', hfound', hfingerprint⟩ := Option.map_eq_some_iff.1 hattempts
      rw [hfound']
      dsimp only
      rw [hfingerprint]
      split <;> rfl

theorem commitChecks (hticket : ticket'.face = ticket.face) (context : MutationContext) :
    Lockstep (fun _ _ => True) (fun record record' => record'.face t.offset = record.face 0)
      (s.commitChecks { ticket, context })
      (s'.commitChecks { ticket := ticket', context := context.translate t }) := by
  have hlifecycle : ticket'.lifecycle = ticket.lifecycle :=
    (congrArg EvaluationTicket.lifecycle hticket :)
  have hdependencies : ticket'.dependencies.face = ticket.dependencies.face :=
    (congrArg EvaluationTicket.dependencies hticket :)
  have hpolicy : ticket'.dependencies.policy = ticket.dependencies.policy :=
    (congrArg DependencySnapshot.policy hdependencies :)
  have hepoch : ticket'.dependencies.epoch = ticket.dependencies.epoch :=
    (congrArg DependencySnapshot.epoch hdependencies :)
  have hauthority : ticket'.dependencies.authorityGeneration = ticket.dependencies.authorityGeneration :=
    (congrArg DependencySnapshot.authorityGeneration hdependencies :)
  have hgeneration : ticket'.dependencies.policyGeneration = ticket.dependencies.policyGeneration :=
    (congrArg DependencySnapshot.policyGeneration hdependencies :)
  have hevidence : ticket'.dependencies.evidenceGeneration = ticket.dependencies.evidenceGeneration :=
    (congrArg DependencySnapshot.evidenceGeneration hdependencies :)
  have hwatermark : ticket'.dependencies.evidenceWatermark = ticket.dependencies.evidenceWatermark :=
    (congrArg DependencySnapshot.evidenceWatermark hdependencies :)
  have hdrift (candidates : List CandidateRecord) : dependencyDrift candidates ticket'.dependencies =
      dependencyDrift candidates ticket.dependencies :=
    (congrArg (dependencyDrift candidates) hdependencies :)
  have hfingerprint : fingerprintCommit ticket' = fingerprintCommit ticket :=
    (congrArg fingerprintCommit hticket :)
  unfold State.commitChecks State.requireCaller
  dsimp only
  rw [hlifecycle, hpolicy, hepoch, hauthority, hgeneration, hevidence, hwatermark, hfingerprint, h.epoch,
    h.authorityGeneration, h.evidenceGeneration, h.evidenceWatermark]
  refine .seq rfl trivial (.seq rfl trivial ?_)
  refine ((h.checkCaller context none none).mapError fun _ _ _ => trivial).bind fun _ _ _ => ?_
  refine (Lockstep.found (h.policies ticket.dependencies.policy) trivial).bind
    fun record record' hrecord => ?_
  rw [PolicyRecord.lifecycle_face hrecord, PolicyRecord.generation_face hrecord,
    PolicyRecord.candidates_face hrecord, hdrift]
  refine .seq rfl trivial (.seq rfl trivial (.seq rfl trivial (.seq rfl trivial ?_)))
  refine .seq rfl trivial (.seq rfl trivial ?_)
  refine (Lockstep.absent (by rw [Option.isSome_map, Option.isSome_map]) fun _ _ _ _ => trivial).bind
    fun _ _ _ => ?_
  exact (h.refuseReplay context.attempt _).bind fun _ _ _ => .ended hrecord

theorem pendingTransitions (hnow : t.Reads now now') :
    s'.pendingTransitions now' = s.pendingTransitions now := by
  have hcount (origin : Int) (s : State) (now : Ticks) : s.pendingTransitions now =
      (s.policies.toList.map fun entry => (entry.1, entry.2.face origin)).countP fun entry =>
        entry.2.2.holdDown.any fun deadline => elapsed origin now < deadline := by
    unfold State.pendingTransitions
    simp only [TimingState.running_face origin, List.countP_map]
    rfl
  rw [hcount t.offset, hcount 0, Pointwise.map_toList_congr h.policies, hnow]

theorem verifyCommit (limits : Limits) (hnow : t.Reads now now')
    (hrecord : record'.face t.offset = record.face 0) (hticket : ticket'.face = ticket.face) :
    Lockstep (fun _ _ => True) (fun verified verified' => verified' = verified)
      (s.verifyCommit limits now record ticket) (s'.verifyCommit limits now' record' ticket') := by
  have hpreference := PolicyRecord.preference_face hrecord
  have htiming := PolicyRecord.timing_face hrecord
  obtain ⟨hholding, hholdDown⟩ := TimingState.holdDown_face htiming
  obtain ⟨hcooling, hcooldown⟩ := TimingState.cooldown_face htiming
  have hpenalty : record'.timing.dampeningPenalty = record.timing.dampeningPenalty :=
    congrArg TimingFace.penalty htiming
  have hprevious : record'.preference.previousPath = record.preference.previousPath :=
    (congrArg RoutingPreference.previousPath hpreference :)
  have hadaptation : record'.preference.adaptationGeneration = record.preference.adaptationGeneration :=
    (congrArg RoutingPreference.adaptationGeneration hpreference :)
  have htransition : record'.preference.transitionGeneration = record.preference.transitionGeneration :=
    (congrArg RoutingPreference.transitionGeneration hpreference :)
  have hemergency : ticket'.emergency = ticket.emergency :=
    (congrArg EvaluationTicket.emergency hticket :)
  have htarget : ticket'.targetPreference = ticket.targetPreference :=
    (congrArg EvaluationTicket.targetPreference hticket :)
  have hgeneration : ticket'.targetPathAuthorityGeneration = ticket.targetPathAuthorityGeneration :=
    (congrArg EvaluationTicket.targetPathAuthorityGeneration hticket :)
  have hcandidate : record'.findCandidate = record.findCandidate := by
    funext path
    unfold PolicyRecord.findCandidate PolicyRecord.candidateIdx
    rw [PolicyRecord.candidates_face hrecord]
  unfold State.verifyCommit
  dsimp only
  rw [PolicyRecord.semantics_face hrecord, hpenalty, hprevious, hemergency, htarget, hgeneration,
    hcandidate, hadaptation, htransition, h.pendingTransitions hnow,
    TimingState.recentCommits_face htiming hnow]
  refine .seq ?_ trivial (.seq ?_ trivial (.seq rfl trivial ?_))
  · rw [hholding]
    cases hon : record.timing.holdDownActive with
    | false => simp
    | true => simp only [elapsed_lt hnow (hholdDown hon)]
  · rw [hcooling]
    cases hon : record.timing.cooldownActive with
    | false => simp
    | true => simp only [elapsed_lt hnow (hcooldown hon)]
  · refine (Lockstep.lookup _ trivial).bind ?_
    rintro _ target rfl
    refine .seq rfl trivial (.seq rfl trivial (.seq rfl trivial ?_))
    refine (Lockstep.lookup _ trivial).bind ?_
    rintro _ adaptation rfl
    refine (Lockstep.lookup _ trivial).bind ?_
    rintro _ transition rfl
    exact .ended rfl

end

end State.Twin

end AdaptiveRouting
