import AdaptiveRouting.Wire.Elements

/-!
# Payloads

The messages of the wire, each with the writer and the reader of its payload. A payload that is not read
to its end is not decoded.
-/

namespace AdaptiveRouting

open Codecs Guard Wire

/-- Decodes a payload with the reader of its fields. -/
def Wire.decodePayload {α : Type} (get : Get α) (payload : Text) : Option α :=
  let message : Get α := do
    let message ← get
    finish ()
    return message
  (message.run payload).toOption.map (·.1)

/-! ## Sessions and authority -/

structure HelloMessage where
  wireVersion : UInt16 := wireProtocolVersion
  product : Text := []
  epoch : CoordinatorEpoch := {}
  authorityGeneration : AdaptiveAuthorityGeneration := {}
  deriving DecidableEq, Repr

namespace HelloMessage

def encode (message : HelloMessage) : Text :=
  putU16 message.wireVersion ++ putString message.product ++ putGeneration message.epoch ++
    putGeneration message.authorityGeneration

def get : Get HelloMessage := do
  let wireVersion ← getU16
  let product ← getString maxStringBytes
  let epoch ← getGeneration
  let authorityGeneration ← getGeneration
  return { wireVersion, product, epoch, authorityGeneration }

def decode (payload : Text) : Option HelloMessage := decodePayload get payload

end HelloMessage

namespace RegisterPublisherMessage

def encode (message : RegisterPublisherMessage) : Text :=
  putId message.publisher ++ putId message.workerBoot ++ encodeAuthorityScope message.scope

def get : Get RegisterPublisherMessage := do
  let publisher ← getId
  let workerBoot ← getId
  let scope ← decodeAuthorityScope
  return { publisher, workerBoot, scope }

def decode (payload : Text) : Option RegisterPublisherMessage := decodePayload get payload

end RegisterPublisherMessage

namespace FenceNoticeMessage

def encode (message : FenceNoticeMessage) : Text :=
  putId message.publisher ++ putId message.workerBoot ++ putString message.cause

def get : Get FenceNoticeMessage := do
  let publisher ← getId
  let workerBoot ← getId
  let cause ← getString maxStringBytes
  return { publisher, workerBoot, cause }

def decode (payload : Text) : Option FenceNoticeMessage := decodePayload get payload

end FenceNoticeMessage

structure AdvanceEpochMessage where
  reason : Text := []
  deriving DecidableEq, Repr

namespace AdvanceEpochMessage

def encode (message : AdvanceEpochMessage) : Text := putString message.reason

def get : Get AdvanceEpochMessage := do
  let reason ← getString maxStringBytes
  return { reason }

def decode (payload : Text) : Option AdvanceEpochMessage := decodePayload get payload

end AdvanceEpochMessage

/-! ## Policies -/

namespace CreatePolicyMessage

def encode (message : CreatePolicyMessage) : Text :=
  putId message.name ++ encodeScope message.scope ++ encodeSemantics message.semantics

def get : Get CreatePolicyMessage := do
  let name ← getId
  let scope ← decodeScope
  let semantics ← decodeSemantics
  return { name, scope, semantics }

def decode (payload : Text) : Option CreatePolicyMessage := decodePayload get payload

end CreatePolicyMessage

namespace UpdatePolicyMessage

def encode (message : UpdatePolicyMessage) : Text :=
  putId message.policy ++ encodeScope message.scope ++ encodeSemantics message.semantics

def get : Get UpdatePolicyMessage := do
  let policy ← getId
  let scope ← decodeScope
  let semantics ← decodeSemantics
  return { policy, scope, semantics }

def decode (payload : Text) : Option UpdatePolicyMessage := decodePayload get payload

end UpdatePolicyMessage

namespace PolicyLifecycleMessage

def encode (message : PolicyLifecycleMessage) : Text :=
  putId message.policy ++ putU8 message.event.code ++ putString message.detail

def get : Get PolicyLifecycleMessage := do
  let policy ← getId
  let event ← policyEvents.read getU8 ()
  let detail ← getString maxStringBytes
  return { policy, event, detail }

def decode (payload : Text) : Option PolicyLifecycleMessage := decodePayload get payload

end PolicyLifecycleMessage

namespace RevokePolicyMessage

def encode (message : RevokePolicyMessage) : Text :=
  putId message.policy ++ putU8 message.reason.code ++ putString message.detail

def get : Get RevokePolicyMessage := do
  let policy ← getId
  let reason ← revocationReasons.read getU8 ()
  let detail ← getString maxStringBytes
  return { policy, reason, detail }

def decode (payload : Text) : Option RevokePolicyMessage := decodePayload get payload

end RevokePolicyMessage

/-! ## Facts and evidence -/

structure UpstreamNotifyMessage where
  notifications : List UpstreamNotification := []
  deriving DecidableEq, Repr

namespace UpstreamNotifyMessage

def encode (message : UpstreamNotifyMessage) : Text :=
  putList encodeNotification message.notifications

def get : Get UpstreamNotifyMessage := do
  let notifications ← getList maxElements decodeNotification
  return { notifications }

def decode (payload : Text) : Option UpstreamNotifyMessage := decodePayload get payload

end UpstreamNotifyMessage

structure PublishEvidenceMessage where
  publications : List EvidencePublication := []
  deriving DecidableEq, Repr

namespace PublishEvidenceMessage

def encode (message : PublishEvidenceMessage) : Text :=
  putList encodePublication message.publications

def get : Get PublishEvidenceMessage := do
  let publications ← getList maxElements decodePublication
  return { publications }

def decode (payload : Text) : Option PublishEvidenceMessage := decodePayload get payload

end PublishEvidenceMessage

/-! ## Evaluations -/

namespace EvaluateMessage

def encode (message : EvaluateMessage) : Text :=
  putId message.policy ++ putBool message.deferCommit

def get : Get EvaluateMessage := do
  let policy ← getId
  let deferCommit ← getBool
  return { policy, deferCommit }

def decode (payload : Text) : Option EvaluateMessage := decodePayload get payload

end EvaluateMessage

structure CommitDecisionMessage where
  ticket : EvaluationTicket := {}
  deriving DecidableEq, Repr

namespace CommitDecisionMessage

def encode (message : CommitDecisionMessage) : Text := encodeTicket message.ticket

/-- The ticket's reader has checked by itself that nothing is left. -/
def get : Get CommitDecisionMessage := do
  let ticket ← decodeTicket
  return { ticket }

def decode (payload : Text) : Option CommitDecisionMessage := decodePayload get payload

end CommitDecisionMessage

structure RevalidateMessage where
  policy : AdaptivePolicyId
  attempt : StrongId .revalidationAttemptId
  deriving DecidableEq, Repr

namespace RevalidateMessage

def encode (message : RevalidateMessage) : Text := putId message.policy ++ putId message.attempt

def get : Get RevalidateMessage := do
  let policy ← getId
  let attempt ← getId
  return { policy, attempt }

def decode (payload : Text) : Option RevalidateMessage := decodePayload get payload

end RevalidateMessage

namespace RollbackMessage

def encode (message : RollbackMessage) : Text := putId message.policy ++ putString message.reason

def get : Get RollbackMessage := do
  let policy ← getId
  let reason ← getString maxStringBytes
  return { policy, reason }

def decode (payload : Text) : Option RollbackMessage := decodePayload get payload

end RollbackMessage

/-! ## Queries -/

/-- An invalid policy asks for every policy. -/
structure QueryStateMessage where
  policy : AdaptivePolicyId := default
  limit : UInt64 := 64
  deriving DecidableEq, Repr

namespace QueryStateMessage

def encode (message : QueryStateMessage) : Text :=
  putOptionalId message.policy ++ putU64 message.limit

def get : Get QueryStateMessage := do
  let policy ← getOptionalId
  let limit ← getU64
  return { policy, limit }

def decode (payload : Text) : Option QueryStateMessage := decodePayload get payload

end QueryStateMessage

structure SnapshotRequestMessage where
  policy : AdaptivePolicyId
  deriving DecidableEq, Repr

namespace SnapshotRequestMessage

def encode (message : SnapshotRequestMessage) : Text := putId message.policy

def get : Get SnapshotRequestMessage := do
  let policy ← getId
  return { policy }

def decode (payload : Text) : Option SnapshotRequestMessage := decodePayload get payload

end SnapshotRequestMessage

structure SnapshotResponseMessage where
  snapshot : SnapshotId
  policy : AdaptivePolicyId
  digest : Text := []
  rendered : Text := []
  deriving DecidableEq, Repr

namespace SnapshotResponseMessage

def encode (message : SnapshotResponseMessage) : Text :=
  putId message.snapshot ++ putId message.policy ++ putString message.digest ++
    putString message.rendered

def get : Get SnapshotResponseMessage := do
  let snapshot ← getId
  let policy ← getId
  let digest ← getString maxStringBytes
  let rendered ← getString maxStringBytes
  return { snapshot, policy, digest, rendered }

def decode (payload : Text) : Option SnapshotResponseMessage := decodePayload get payload

end SnapshotResponseMessage

def ExplanationTopic.code (topic : ExplanationTopic) : UInt8 := topic.ctorIdx.toUInt8 + 1

def explanationTopics : Enumeration UInt8 ExplanationTopic where
  values := (List.range 12).map .ofNat
  code := ExplanationTopic.code
  complete topic := by cases topic <;> decide
  distinct := by decide

structure ExplainRequestMessage where
  topic : ExplanationTopic := .whyNotAdapted
  policy : AdaptivePolicyId
  deriving DecidableEq, Repr

namespace ExplainRequestMessage

def encode (message : ExplainRequestMessage) : Text :=
  putU8 message.topic.code ++ putId message.policy

def get : Get ExplainRequestMessage := do
  let topic ← explanationTopics.read getU8 ()
  let policy ← getId
  return { topic, policy }

def decode (payload : Text) : Option ExplainRequestMessage := decodePayload get payload

end ExplainRequestMessage

namespace DiffRequestMessage

def encode (message : DiffRequestMessage) : Text :=
  putId message.policy ++ putId message.before ++ putId message.after

def get : Get DiffRequestMessage := do
  let policy ← getId
  let before ← getId
  let after ← getId
  return { policy, before, after }

def decode (payload : Text) : Option DiffRequestMessage := decodePayload get payload

end DiffRequestMessage

/-! ## Responses -/

structure ResultMessage where
  outcome : Outcome := .malformedRequest
  suppression : SuppressionReason := .none
  detail : Text := []
  policy : AdaptivePolicyId := default
  policyGeneration : AdaptivePolicyGeneration := {}
  decision : AdaptationDecisionId := default
  adaptationGeneration : AdaptationGeneration := {}
  transitionGeneration : TransitionGeneration := {}
  evidenceGeneration : EvidenceGeneration := {}
  epoch : CoordinatorEpoch := {}
  rendered : Text := []
  deriving DecidableEq, Repr

namespace ResultMessage

def encode (message : ResultMessage) : Text :=
  putU16 message.outcome.code ++ putU8 message.suppression.code ++ putString message.detail ++
    putOptionalId message.policy ++ putOptionalGeneration message.policyGeneration ++
    putOptionalId message.decision ++ putOptionalGeneration message.adaptationGeneration ++
    putOptionalGeneration message.transitionGeneration ++
    putOptionalGeneration message.evidenceGeneration ++ putOptionalGeneration message.epoch ++
    putString message.rendered

def get : Get ResultMessage := do
  let outcome ← outcomes.read getU16 ()
  let suppression ← suppressionReasons.read getU8 ()
  let detail ← getString maxStringBytes
  let policy ← getOptionalId
  let policyGeneration ← getOptionalGeneration
  let decision ← getOptionalId
  let adaptationGeneration ← getOptionalGeneration
  let transitionGeneration ← getOptionalGeneration
  let evidenceGeneration ← getOptionalGeneration
  let epoch ← getOptionalGeneration
  let rendered ← getString maxStringBytes
  return { outcome, suppression, detail, policy, policyGeneration, decision, adaptationGeneration
           transitionGeneration, evidenceGeneration, epoch, rendered }

def decode (payload : Text) : Option ResultMessage := decodePayload get payload

end ResultMessage

structure ErrorMessage where
  outcome : Outcome := .malformedRequest
  detail : Text := []
  deriving DecidableEq, Repr

namespace ErrorMessage

def encode (message : ErrorMessage) : Text := putU16 message.outcome.code ++ putString message.detail

def get : Get ErrorMessage := do
  let outcome ← outcomes.read getU16 ()
  let detail ← getString maxStringBytes
  return { outcome, detail }

def decode (payload : Text) : Option ErrorMessage := decodePayload get payload

end ErrorMessage

end AdaptiveRouting
