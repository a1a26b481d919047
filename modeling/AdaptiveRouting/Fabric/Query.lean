import AdaptiveRouting.Fabric.Commit

/-!
# Snapshots and decisions

The point-in-time view of one policy. Building one retains it in the bounded snapshot history, so it
is an operation on the state like the others. Policies, retained snapshots and decisions are looked up
by their identities.
-/

namespace AdaptiveRouting

namespace State

/-- A candidate as the ranking of an evaluation sees it. -/
def candidateView (ranking : List CandidateEvaluation) (candidate : CandidateRecord) :
    CandidateView :=
  let blank : CandidateView :=
    { binding := candidate.binding, pathWatermark := candidate.pathWatermark }
  match ranking.find? fun ranked => ranked.path == candidate.binding.path with
  | none => blank
  | some ranked => { blank with
      eligible := ranked.eligible, rejection := ranked.rejection, quality := ranked.quality
      score := ranked.score, metrics := ranked.metrics, priority := ranked.priority
      currentPreference := ranked.currentPreference
      previousPreference := ranked.previousPreference }

/-- What stands against the binding of the established preference. -/
def preferenceBlockers (record : PolicyRecord) : List Currentness :=
  match record.findCandidate record.preference.preferredPath with
  | none => [.revalidationRequired]
  | some candidate =>
    let b := candidate.binding
    (if !b.pathAuthority.legal ||
        b.pathAuthority.generation != record.preference.pathAuthorityGeneration
      then [.stalePathAuthority] else []) ++
    (if !b.route.current then [.staleRoute] else []) ++
    (if record.policy.semantics.target.multipathSet.isSome && !b.multipath.any fun m =>
        m.current && m.generation == record.preference.multipathSetGeneration
      then [.staleMultipathSet] else []) ++
    (if !b.available then [.revalidationRequired] else [])

/-- What stands against the evidence of the established preference. -/
def evidenceBlockers (inputs : EvaluationInputs) : List Currentness :=
  (inputs.policy.semantics.evidence.filter (·.required)).filterMap fun requirement =>
    match inputs.evidence.find inputs.preference.preferredPath requirement.kind with
    | none => some .staleEvidence
    | some resolved =>
      let aggregate := resolved.aggregate
      if !aggregate.valid || aggregate.sampleCount < requirement.minSamples ||
          aggregate.age inputs.now > requirement.maxAge ||
          aggregate.window < requirement.minWindow then some .staleEvidence
      else none

/-- Every blocker, in the order they are noted. -/
def snapshotBlockers (s : State) (record : PolicyRecord) (inputs : EvaluationInputs)
    (holdDownRemaining cooldownRemaining : Ticks) : List Currentness :=
  (if record.policy.lifecycle ≠ .active then [.revalidationRequired] else []) ++
  (if record.revocation.isSome then [.revalidationRequired] else []) ++
  (if record.policy.epoch.valid && record.policy.epoch != s.epoch then [.staleEpoch] else []) ++
  (if record.preference.established then preferenceBlockers record else []) ++
  (if record.preference.established then evidenceBlockers inputs else []) ++
  (if record.timing.holdDownActive && holdDownRemaining != 0 then [.holdDownActive] else []) ++
  (if record.timing.cooldownActive && cooldownRemaining != 0 then [.cooldownActive] else [])

/-- The view of a record, with the minted identities of the snapshot and its evidence. -/
def viewRecord (s : State) (now : Ticks) (id : SnapshotId) (evidence : EvidenceSnapshotId)
    (record : PolicyRecord) : AdaptationSnapshot :=
  let inputs := s.copyInputs now evidence record
  let ticket := inputs.evaluate (s.buildDependencies now record default)
  let timing := record.timing
  let holdDownActive := timing.holdDownActive && timing.holdDownDeadline > now
  let holdDownRemaining := if holdDownActive then timing.holdDownDeadline - now else 0
  let cooldownActive := timing.cooldownActive && timing.cooldownDeadline > now
  let cooldownRemaining := if cooldownActive then timing.cooldownDeadline - now else 0
  let blockers := s.snapshotBlockers record inputs holdDownRemaining cooldownRemaining
  let view : AdaptationSnapshot :=
    { id, epoch := s.epoch, authorityGeneration := s.authorityGeneration
      policy := record.policy.id, policyGeneration := record.policy.generation
      policyName := record.policy.name, scope := record.policy.scope
      lifecycle := record.policy.lifecycle, semantics := record.policy.semantics
      preference := record.preference, stable := record.stable
      candidates := record.candidates.map (candidateView ticket.ranking)
      evidence := inputs.evidence, currentness := blockers.head?.getD .current, blockers
      holdDownActive, holdDownRemaining, cooldownActive, cooldownRemaining
      dampeningPenalty := timing.dampeningPenalty
      adaptationGeneration := record.preference.adaptationGeneration
      transitionGeneration := record.preference.transitionGeneration
      evidenceGeneration := s.evidenceGeneration, evidenceWatermark := s.evidenceWatermark
      upstreamWatermark := s.upstreamWatermark, history := record.history, capturedAt := now }
  { view with digest := snapshotDigest view }

/-- `retain_snapshot`: the oldest snapshots beyond the bound are forgotten. -/
def retainSnapshot (s : State) (limits : Limits) (view : AdaptationSnapshot) : State :=
  let order := s.snapshotOrder ++ [view.id]
  let surplus := order.length - limits.maxSnapshotHistory.toNat
  { s with
    snapshots := (order.take surplus).foldl (fun table oldest => table.erase oldest)
      (s.snapshots.insert view.id view)
    snapshotOrder := order.drop surplus }

end State

/-- `snapshot`; nothing is returned, and nothing changes, for an unknown policy. -/
def snapshot (limits : Limits) (e : Engine) (now : Ticks) (policy : AdaptivePolicyId) :
    Option (Engine × Option AdaptationSnapshot) :=
  match e.state.policies[policy]? with
  | none => some (e, none)
  | some record => do
    let (id, ids) ← e.ids.mint .snapshot
    let (evidence, ids) ← ids.mint .evsnap
    let view := e.state.viewRecord now id evidence record
    return ({ e with state := e.state.retainSnapshot limits view, ids }, some view)

/-! ## Lookups -/

namespace State

variable (s : State)

def findPolicy (policy : AdaptivePolicyId) : Option AdaptivePolicy :=
  s.policies[policy]?.map (·.policy)

/-- In the order of their ids. -/
def listPolicies : List AdaptivePolicy := s.policies.toList.map fun entry => entry.2.policy

def findSnapshot (snapshot : SnapshotId) : Option AdaptationSnapshot := s.snapshots[snapshot]?

end State

/-! ## Decisions -/

/-- A decision as the history of its policy names it. -/
def decisionSummary (policy : AdaptivePolicyId) (record : AdaptationRecord) : AdaptationDecision where
  id := record.decision
  policy := policy
  lifecycle := record.lifecycle
  outcome := record.outcome
  suppression := record.suppression
  cause := record.cause
  currentPreference := record.fromPath
  targetPreference := record.toPath
  adaptationGeneration := record.adaptationGeneration
  evidenceGeneration := record.evidenceGeneration
  epoch := record.epoch
  committedAt := record.committedAt
  digest := record.digest

/-- The journal first; a decision that aged out of it is still named by a history. -/
def State.findDecision (s : State) (decision : AdaptationDecisionId) : Option AdaptationDecision :=
  (s.decisionJournal.find? (·.id == decision)).or
    (s.policies.toList.findSome? fun entry =>
      (entry.2.history.find? (·.decision == decision)).map (decisionSummary entry.1))

end AdaptiveRouting
