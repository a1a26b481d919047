import AdaptiveRouting.Wire.Messages

/-!
# Frames of a session

`dispatch` on frames as they come off the wire: the message id says how the payload is decoded. The
header gives the message, and the sequence the response is sent under. Neither its sequence nor its
epoch reaches the engine: a handler takes the epoch from the engine and numbers the attempt itself.
-/

namespace AdaptiveRouting

/-- The outcome a session reads in a response. -/
def Reply.outcome : Reply → Option Outcome
  | .answer (.result result) => some result.outcome
  | .answer (.ticket ticket) => some ticket.outcome
  | .error outcome _ => some outcome
  | .none | .greeting | .report | .answer (.view _) => Option.none

namespace Wire

/-- The messages whose handlers call an entry point that may mutate the engine. -/
def MessageId.mutates : MessageId → Bool
  | .registerPublisher | .fenceNotice | .createPolicy | .updatePolicy | .policyLifecycle
  | .revokePolicy | .upstreamNotify | .publishEvidence | .evaluate | .commitDecision | .revalidate
  | .rollback | .advanceEpoch => true
  | _ => false

/-- The message of a frame, with what its payload decodes to. -/
def Frame.interpret (frame : Frame) : AdaptiveRouting.Frame :=
  let payload := frame.payload
  match frame.header.messageId with
  | .hello => .hello ((HelloMessage.decode payload).map (·.wireVersion))
  | .helloAck => .helloAck
  | .registerPublisher => .registerPublisher (RegisterPublisherMessage.decode payload)
  | .fenceNotice => .fenceNotice (FenceNoticeMessage.decode payload)
  | .createPolicy => .createPolicy (CreatePolicyMessage.decode payload)
  | .updatePolicy => .updatePolicy (UpdatePolicyMessage.decode payload)
  | .policyLifecycle => .policyLifecycle (PolicyLifecycleMessage.decode payload)
  | .revokePolicy => .revokePolicy (RevokePolicyMessage.decode payload)
  | .upstreamNotify =>
    .upstreamNotify ((UpstreamNotifyMessage.decode payload).map (·.notifications))
  | .publishEvidence =>
    .publishEvidence ((PublishEvidenceMessage.decode payload).map (·.publications))
  | .evaluate => .evaluate (EvaluateMessage.decode payload)
  | .commitDecision => .commitDecision ((CommitDecisionMessage.decode payload).map (·.ticket))
  | .revalidate => .revalidate ((RevalidateMessage.decode payload).map (·.policy))
  | .rollback => .rollback (RollbackMessage.decode payload)
  | .queryState => .queryState ((QueryStateMessage.decode payload).map (·.policy))
  | .snapshotRequest => .snapshotRequest ((SnapshotRequestMessage.decode payload).map (·.policy))
  | .snapshotResponse => .snapshotResponse
  | .explainRequest => .explainRequest ((ExplainRequestMessage.decode payload).map (·.policy))
  | .diffRequest => .diffRequest (DiffRequestMessage.decode payload)
  | .advanceEpoch => .advanceEpoch ((AdvanceEpochMessage.decode payload).map (·.reason))
  | .result => .result
  | .error => .error
  | .bye => .bye

/-- `dispatch` of a frame. -/
def Frame.serve (config : EngineConfig) (e : Engine) (session : Session) (frame : Frame)
    (begun now : Ticks) (accepted : Nat → Ticks) : Option Served :=
  dispatch config e session frame.interpret { epoch := e.state.epoch, begun, now, accepted }

end Wire

end AdaptiveRouting
