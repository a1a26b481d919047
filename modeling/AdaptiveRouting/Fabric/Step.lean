import AdaptiveRouting.Lib.Runs
import AdaptiveRouting.Fabric.Durable
import AdaptiveRouting.Fabric.Query
import AdaptiveRouting.Fabric.Upstream

/-!
# The engine as a transition system

Every entry point that writes engine state is one atomic step. The two phases of an evaluation are
steps of their own, so that any other operation can fall between them, and `evaluate` is their
combination. The clock readings of each step are arbitrary.
-/

namespace AdaptiveRouting

/-- An entry point with its arguments and its clock readings. -/
inductive Op
  | registerPublisher (publisher : PublisherId) (workerBoot : WorkerBootId) (scope : AuthorityScope)
      (session : SessionId)
  | fencePublisher (publisher : PublisherId) (workerBoot : WorkerBootId) (cause : Text)
  | advanceEpoch (reason : Text)
  | createPolicy (now : Ticks) (request : CreatePolicyRequest)
  | updatePolicy (now : Ticks) (request : UpdatePolicyRequest)
  | transitionPolicy (request : PolicyLifecycleRequest)
  | revokePolicy (request : RevokePolicyRequest)
  | applyUpstream (request : UpstreamNotifyRequest)
  | publishEvidence (clock : Nat → Ticks) (request : PublishEvidenceRequest)
  | beginEvaluation (now : Ticks) (request : EvaluateRequest)
  | commitEvaluation (now : Ticks) (request : CommitDecisionRequest)
  | evaluate (begun committed : Ticks) (request : EvaluateRequest)
  | rollback (now : Ticks) (request : RollbackRequest)
  | revalidate (policy : AdaptivePolicyId) (context : MutationContext)
  | snapshot (now : Ticks) (policy : AdaptivePolicyId)
  | decodeStore (now : Ticks) (decoded : Except Text DurableState) (origin : Text)

/-- What an entry point returns. -/
inductive Answer
  | result (result : OperationResult)
  | ticket (ticket : EvaluationTicket)
  | view (view : Option AdaptationSnapshot)

/-- The result of an operation, if it returns one. -/
def Answer.outcome : Answer → Option Outcome
  | .result r => some r.outcome
  | _ => none

namespace Engine

/-- An operation that touches only the guarded state. -/
def onState (e : Engine) (after : State × OperationResult) : Engine × Answer :=
  ({ e with state := after.1 }, .result after.2)

/-- One operation. `none` ends the process. -/
def step (config : EngineConfig) (e : Engine) : Op → Option (Engine × Answer)
  | .registerPublisher publisher workerBoot scope session =>
    some (e.onState (e.state.registerPublisher config.limits publisher workerBoot scope session))
  | .fencePublisher publisher workerBoot cause =>
    some (e.onState (e.state.fencePublisher publisher workerBoot cause))
  | .advanceEpoch reason => some (e.onState (e.state.advanceEpoch reason))
  | .createPolicy now request =>
    (AdaptiveRouting.createPolicy config.limits e now request).map (Prod.map id .result)
  | .updatePolicy now request => some (e.onState (e.state.updatePolicy config.limits now request))
  | .transitionPolicy request => some (e.onState (e.state.transitionPolicy request))
  | .revokePolicy request => some (e.onState (e.state.revokePolicy config.limits request))
  | .applyUpstream request => some (e.onState (e.state.applyUpstream config.limits request))
  | .publishEvidence clock request =>
    some (e.onState (e.state.publishEvidence config.limits clock request))
  | .beginEvaluation now request =>
    (AdaptiveRouting.beginEvaluation config.limits e now request).map (Prod.map id .ticket)
  | .commitEvaluation now request =>
    (AdaptiveRouting.commitEvaluation config.limits e now request).map (Prod.map id .result)
  | .evaluate begun committed request =>
    (AdaptiveRouting.evaluate config.limits e begun committed request).map (Prod.map id .result)
  | .rollback now request =>
    (AdaptiveRouting.rollback config.limits e now request).map (Prod.map id .result)
  | .revalidate policy context => some (e.onState (e.state.revalidate policy context))
  | .snapshot now policy =>
    (AdaptiveRouting.snapshot config.limits e now policy).map (Prod.map id .view)
  | .decodeStore now decoded origin =>
    some (e.onState (e.state.decodeStore config now decoded origin))

/-- Runs of an engine all of whose steps meet a condition on the engine before and the operation. -/
abbrev RunUnder (config : EngineConfig) (ok : Engine → Op → Prop) : Engine → Engine → Prop :=
  Runs.Run (step config) ok

/-- Any run. -/
abbrev Run (config : EngineConfig) : Engine → Engine → Prop :=
  RunUnder config fun _ _ => True

/-- Reached from a new engine of some process by some run. -/
def Reachable (config : EngineConfig) (e : Engine) : Prop :=
  ∃ nonce, Run config (Engine.start config nonce) e

end Engine

end AdaptiveRouting
