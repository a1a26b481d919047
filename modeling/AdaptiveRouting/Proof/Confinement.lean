import AdaptiveRouting.Proof.Authoring
import AdaptiveRouting.Proof.Records
import AdaptiveRouting.Proof.Standing
import AdaptiveRouting.Proof.Ticket

/-!
# Confinement

When a registered scope covers a policy (`AuthorityScope.coversPolicy`): it names the policy's target,
and the policy's own fabric and namespace (`coversPolicy_iff`); the caller check asks for the first
only (`Authorized.namesTarget`). The guarded part of a record is all but its watermarks, history and
revocation.
-/

namespace AdaptiveRouting

open Guard Engine

/-! ## Coverage -/

namespace AuthorityScope

/-- The route and the set of a target, in a fabric and a namespace. -/
def coversTarget (authority : AuthorityScope) (fabric : FabricId) (nameSpace : RoutingNamespace)
    (target : PolicyTarget) : Bool :=
  authority.coversRoute fabric nameSpace target.route &&
    target.multipathSet.all (authority.coversMultipathSet fabric nameSpace)

/-- The policy's fabric and namespace, its target route and its target set. -/
def coversPolicy (authority : AuthorityScope) (policy : AdaptivePolicy) : Bool :=
  authority.coversTarget policy.scope.fabric policy.scope.nameSpace policy.semantics.target

/-- The target by name alone: what the caller check asks. -/
def namesTarget (authority : AuthorityScope) (target : PolicyTarget) : Bool :=
  authority.coversTarget authority.fabric authority.nameSpace target

/-- The target by name, and the policy's own fabric and namespace. -/
theorem coversPolicy_iff {authority : AuthorityScope} {policy : AdaptivePolicy} :
    authority.coversPolicy policy = true ↔
      authority.namesTarget policy.semantics.target = true ∧
        authority.coversNamespace policy.scope.fabric policy.scope.nameSpace = true := by
  have hspace : authority.coversNamespace policy.scope.fabric policy.scope.nameSpace = true ↔
      authority.fabric = policy.scope.fabric ∧ authority.nameSpace = policy.scope.nameSpace := by
    simp [coversNamespace]
  constructor
  · intro h
    have hcovered := (Bool.and_eq_true _ _).mp h
    have hsame := (coversRoute_iff.1 hcovered.1).1
    refine ⟨?_, hsame⟩
    unfold namesTarget
    rw [(hspace.1 hsame).1, (hspace.1 hsame).2]
    exact h
  · rintro ⟨hnames, hsame⟩
    unfold coversPolicy
    rw [← (hspace.1 hsame).1, ← (hspace.1 hsame).2]
    exact hnames

end AuthorityScope

theorem Authorized.namesTarget {s : State} {context : MutationContext} {target : PolicyTarget}
    {registration : PublisherRegistration}
    (h : Authorized s context (some target.route) target.multipathSet registration) :
    registration.scope.namesTarget target = true := by
  unfold AuthorityScope.namesTarget AuthorityScope.coversTarget
  rw [h.route _ rfl, Bool.true_and]
  cases hset : target.multipathSet with
  | none => rfl
  | some set => exact h.set set hset

/-! ## The guarded part -/

/-- A record without its watermarks, history and revocation. -/
structure GuardedPart where
  policy : AdaptivePolicy
  preference : RoutingPreference
  stable : StableState
  timing : TimingState
  bindings : List CandidateBinding
  deriving DecidableEq

namespace PolicyRecord

def guarded (r : PolicyRecord) : GuardedPart where
  policy := r.policy
  preference := r.preference
  stable := r.stable
  timing := r.timing
  bindings := r.candidates.map (·.binding)

theorem bumped_guarded (r : PolicyRecord) (path : PathId) : (r.bumped path).guarded = r.guarded := by
  unfold bumped modifyCandidate
  split
  · rename_i index hindex
    have hbindings : (r.candidates.modify index fun candidate =>
        { candidate with pathWatermark := candidate.pathWatermark + 1 }).map (·.binding) =
        r.candidates.map (·.binding) := by
      refine List.ext_getElem? fun i => ?_
      rw [List.getElem?_map, List.getElem?_map, List.getElem?_modify]
      cases r.candidates[i]? with
      | none => rfl
      | some candidate =>
        dsimp only [Option.map_some]
        split <;> rfl
    simp only [guarded, hbindings]
  · rfl

end PolicyRecord

/-- The policy exists, with this guarded part. -/
def Guards (policy : AdaptivePolicyId) (part : GuardedPart) (s : State) : Prop :=
  s.policies[policy]?.map (·.guarded) = some part

section
variable {policy : AdaptivePolicyId} {part : GuardedPart} {s s' : State}

theorem Guards.found (h : Guards policy part s) {record : PolicyRecord}
    (found : s.policies[policy]? = some record) : record.guarded = part := by
  rw [Guards, found] at h
  exact Option.some.inj h

theorem Guards.insert (h : Guards policy part s) {other : AdaptivePolicyId} {record : PolicyRecord}
    (hs : s'.policies = s.policies.insert other record)
    (hsame : other = policy → record.guarded = part) : Guards policy part s' := by
  unfold Guards
  rw [hs]
  by_cases ho : other = policy
  · subst ho
    rw [Std.ExtTreeMap.getElem?_insert_self, Option.map_some, hsame rfl]
  · rw [get_insert_ne ho]
    exact h

end

/-! ## Operations of other callers -/

/-- The operation names the policy, other than to update it or to commit a ticket for it. -/
def Op.addresses (policy : AdaptivePolicyId) : Op → Prop
  | .transitionPolicy request => request.policy = policy
  | .revokePolicy request => request.policy = policy
  | .applyUpstream request => ∃ n ∈ request.notifications, n.policy = policy
  | .evaluate _ _ request => request.policy = policy
  | .rollback _ request => request.policy = policy
  | .revalidate subject _ => subject = policy
  | _ => False

theorem Op.transition_context {op : Op} {request : PolicyLifecycleRequest}
    (h : op.transition = some request) :
    op.context = some request.context ∧ op.addresses request.policy := by
  cases op with
  | transitionPolicy r =>
    cases h
    exact ⟨rfl, rfl⟩
  | revalidate subject context =>
    cases h
    exact ⟨rfl, rfl⟩
  | _ => cases h

/-- A ticket phase two accepts was issued, for the policy its request named. -/
theorem issued_policy {config : EngineConfig} {e e₁ : Engine} {begun : Ticks}
    {request : EvaluateRequest} {ticket : EvaluationTicket} (hk : Keyed e.state)
    (h : beginEvaluation config.limits e begun request = some (e₁, ticket))
    (hl : ticket.lifecycle ≠ .rejected) :
    ∃ record registration, State.BeginAccepted e.state request record registration ∧
      ticket.dependencies.policy = request.policy := by
  obtain ⟨-, hrefused | ⟨record, registration, _, _, haccepted, hissues⟩⟩ := beginEvaluation_issues h
  · exact absurd hrefused.lifecycle hl
  · refine ⟨record, registration, haccepted, ?_⟩
    rw [hissues.dependencies]
    exact hk request.policy record haccepted.found

end AdaptiveRouting
