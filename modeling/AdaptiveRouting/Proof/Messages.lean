import AdaptiveRouting.Proof.Elements
import AdaptiveRouting.Wire.Messages

/-!
# The format of the payloads

The decoder of every message inverts its encoder (`Wire.Lawful`): it reads back what was written of a
message within the rules and the bounds, and what it reads is written as the same bytes. So it refuses
whatever is not the encoding of such a message.
-/

namespace AdaptiveRouting

open Codecs Guard Wire

namespace Wire

/-! ## Payloads read to their end -/

section
variable {α : Type} {P : α → Prop} {encode : α → Text} {decode : Text → Option α} {get : Get α}

/-- A decoder that inverts its encoder on the messages in `valid`. -/
structure Lawful (valid : α → Prop) (encode : α → Text) (decode : Text → Option α) : Prop where
  reads : ∀ message, valid message → decode (encode message) = some message
  writes : ∀ payload message, decode payload = some message →
    valid message ∧ encode message = payload
  refuses : ∀ payload, (∀ message, valid message → encode message ≠ payload) →
    decode payload = none
  alone : ∀ message trailing, valid message → trailing ≠ [] →
    decode (encode message ++ trailing) = none

theorem Lawful.of_iff (hdelimited : Framing.Delimited P encode)
    (h : ∀ payload message, decode payload = some message ↔ P message ∧ payload = encode message) :
    Lawful P encode decode where
  reads message hmessage := (h _ _).2 ⟨hmessage, rfl⟩
  writes payload message hdecode := by
    obtain ⟨hmessage, hpayload⟩ := (h _ _).1 hdecode
    exact ⟨hmessage, hpayload.symm⟩
  refuses payload hpayload := by
    cases hdecode : decode payload with
    | none => rfl
    | some message =>
      obtain ⟨hmessage, rfl⟩ := (h _ _).1 hdecode
      exact absurd rfl (hpayload message hmessage)
  alone message trailing hmessage htrailing := by
    cases hdecode : decode (encode message ++ trailing) with
    | none => rfl
    | some other =>
      obtain ⟨hother, hpayload⟩ := (h _ _).1 hdecode
      have hrest := hdelimited hmessage hother trailing [] (by rw [hpayload, List.append_nil])
      exact absurd hrest.2 htrailing

/-- A reader that leaves nothing decodes the payloads it accepts. -/
theorem exact_iff (hget : Exact P encode get) (payload : Text) (message : α) :
    (get.run payload).toOption.map (·.1) = some message ↔
      P message ∧ payload = encode message := by
  constructor
  · intro h
    cases hread : get.run payload with
    | error => simp [hread, Except.toOption] at h
    | ok read =>
      obtain ⟨a, rest⟩ := read
      rw [hread] at h
      cases h
      obtain ⟨ha, hpayload, -⟩ := (hget _ _ _).1 hread
      exact ⟨ha, hpayload⟩
  · intro h
    obtain ⟨hmessage, rfl⟩ := h
    rw [(hget _ _ _).2 ⟨hmessage, rfl, rfl⟩]
    rfl

/-- The decoder of a canonical reader. -/
theorem lawful (hget : Canonical P encode get) : Lawful P encode (decodePayload get) :=
  .of_iff hget.delimited fun payload message => exact_iff (hget.exact ()) payload message

end

end Wire

/-! ## Sessions and authority -/

structure HelloMessage.OnWire (m : HelloMessage) : Prop where
  product : Short m.product
  epoch : m.epoch.valid = true
  authorityGeneration : m.authorityGeneration.valid = true

theorem HelloMessage.get_canonical : Canonical OnWire encode get := by
  refine Parses.canonical (.field getU16_canonical HelloMessage.wireVersion fun _ =>
    .field getText_canonical HelloMessage.product fun _ =>
    .field getGeneration_canonical HelloMessage.epoch fun _ =>
    .field getGeneration_canonical HelloMessage.authorityGeneration fun _ => .done _)
    (fun _ => rfl) ?_ ?_
  · intro m
    simp [encode]
  · intro m
    constructor
    · intro h
      exact ⟨h.2.1, h.2.2.1, h.2.2.2.1⟩
    · intro h
      exact ⟨trivial, h.product, h.epoch, h.authorityGeneration, trivial⟩

structure RegisterPublisherMessage.OnWire (m : RegisterPublisherMessage) : Prop where
  publisher : m.publisher.valid = true
  workerBoot : m.workerBoot.valid = true
  scope : m.scope.OnWire

theorem RegisterPublisherMessage.get_canonical : Canonical OnWire encode get := by
  refine Parses.canonical (.field getId_canonical RegisterPublisherMessage.publisher fun _ =>
    .field getId_canonical RegisterPublisherMessage.workerBoot fun _ =>
    .field decodeAuthorityScope_canonical RegisterPublisherMessage.scope fun _ => .done _)
    (fun _ => rfl) ?_ ?_
  · intro m
    simp [encode]
  · intro m
    constructor
    · intro h
      exact ⟨h.1, h.2.1, h.2.2.1⟩
    · intro h
      exact ⟨h.publisher, h.workerBoot, h.scope, trivial⟩

structure FenceNoticeMessage.OnWire (m : FenceNoticeMessage) : Prop where
  publisher : m.publisher.valid = true
  workerBoot : m.workerBoot.valid = true
  cause : Short m.cause

theorem FenceNoticeMessage.get_canonical : Canonical OnWire encode get := by
  refine Parses.canonical (.field getId_canonical FenceNoticeMessage.publisher fun _ =>
    .field getId_canonical FenceNoticeMessage.workerBoot fun _ =>
    .field getText_canonical FenceNoticeMessage.cause fun _ => .done _) (fun _ => rfl) ?_ ?_
  · intro m
    simp [encode]
  · intro m
    constructor
    · intro h
      exact ⟨h.1, h.2.1, h.2.2.1⟩
    · intro h
      exact ⟨h.publisher, h.workerBoot, h.cause, trivial⟩

theorem AdvanceEpochMessage.get_canonical :
    Canonical (fun m : AdvanceEpochMessage => Short m.reason) encode get :=
  Parses.canonical (.field getText_canonical AdvanceEpochMessage.reason fun _ => .done _)
    (fun _ => rfl) (by simp [encode]) (by simp)

/-! ## Policies -/

structure CreatePolicyMessage.OnWire (m : CreatePolicyMessage) : Prop where
  name : m.name.valid = true
  scope : m.scope.OnWire
  semantics : m.semantics.OnWire

theorem CreatePolicyMessage.get_canonical : Canonical OnWire encode get := by
  refine Parses.canonical (.field getId_canonical CreatePolicyMessage.name fun _ =>
    .field decodeScope_canonical CreatePolicyMessage.scope fun _ =>
    .field decodeSemantics_canonical CreatePolicyMessage.semantics fun _ => .done _)
    (fun _ => rfl) ?_ ?_
  · intro m
    simp [encode]
  · intro m
    constructor
    · intro h
      exact ⟨h.1, h.2.1, h.2.2.1⟩
    · intro h
      exact ⟨h.name, h.scope, h.semantics, trivial⟩

structure UpdatePolicyMessage.OnWire (m : UpdatePolicyMessage) : Prop where
  policy : m.policy.valid = true
  scope : m.scope.OnWire
  semantics : m.semantics.OnWire

theorem UpdatePolicyMessage.get_canonical : Canonical OnWire encode get := by
  refine Parses.canonical (.field getId_canonical UpdatePolicyMessage.policy fun _ =>
    .field decodeScope_canonical UpdatePolicyMessage.scope fun _ =>
    .field decodeSemantics_canonical UpdatePolicyMessage.semantics fun _ => .done _)
    (fun _ => rfl) ?_ ?_
  · intro m
    simp [encode]
  · intro m
    constructor
    · intro h
      exact ⟨h.1, h.2.1, h.2.2.1⟩
    · intro h
      exact ⟨h.policy, h.scope, h.semantics, trivial⟩

structure PolicyLifecycleMessage.OnWire (m : PolicyLifecycleMessage) : Prop where
  policy : m.policy.valid = true
  detail : Short m.detail

theorem PolicyLifecycleMessage.get_canonical : Canonical OnWire encode get := by
  refine Parses.canonical (.field getId_canonical PolicyLifecycleMessage.policy fun _ =>
    .field policyEvents_canonical PolicyLifecycleMessage.event fun _ =>
    .field getText_canonical PolicyLifecycleMessage.detail fun _ => .done _) (fun _ => rfl) ?_ ?_
  · intro m
    simp [encode]
  · intro m
    constructor
    · intro h
      exact ⟨h.1, h.2.2.1⟩
    · intro h
      exact ⟨h.policy, trivial, h.detail, trivial⟩

structure RevokePolicyMessage.OnWire (m : RevokePolicyMessage) : Prop where
  policy : m.policy.valid = true
  detail : Short m.detail

theorem RevokePolicyMessage.get_canonical : Canonical OnWire encode get := by
  refine Parses.canonical (.field getId_canonical RevokePolicyMessage.policy fun _ =>
    .field revocationReasons_canonical RevokePolicyMessage.reason fun _ =>
    .field getText_canonical RevokePolicyMessage.detail fun _ => .done _) (fun _ => rfl) ?_ ?_
  · intro m
    simp [encode]
  · intro m
    constructor
    · intro h
      exact ⟨h.1, h.2.2.1⟩
    · intro h
      exact ⟨h.policy, trivial, h.detail, trivial⟩

/-! ## Facts and evidence -/

theorem UpstreamNotifyMessage.get_canonical :
    Canonical (fun m : UpstreamNotifyMessage => Bounded UpstreamNotification.OnWire m.notifications)
      encode get :=
  Parses.canonical (.field (getElements_canonical decodeNotification_canonical)
    UpstreamNotifyMessage.notifications fun _ => .done _) (fun _ => rfl) (by simp [encode])
    (by simp)

theorem PublishEvidenceMessage.get_canonical :
    Canonical (fun m : PublishEvidenceMessage =>
      Bounded (fun publication => publication.wellFormed = true) m.publications) encode get :=
  Parses.canonical (.field (getElements_canonical decodePublication_canonical)
    PublishEvidenceMessage.publications fun _ => .done _) (fun _ => rfl) (by simp [encode])
    (by simp)

/-! ## Evaluations -/

theorem EvaluateMessage.get_canonical :
    Canonical (fun m : EvaluateMessage => m.policy.valid = true) encode get :=
  Parses.canonical (.field getId_canonical EvaluateMessage.policy fun _ =>
    .field getBool_canonical EvaluateMessage.deferCommit fun _ => .done _) (fun _ => rfl)
    (by simp [encode]) (by simp)

theorem CommitDecisionMessage.get_exact :
    Exact (fun m : CommitDecisionMessage => m.ticket.OnWire) encode get := by
  intro payload message rest
  constructor
  · intro h
    obtain ⟨ticket, rest', hticket, h⟩ := run_bind_ok h
    cases h
    exact (decodeTicket_exact _ _ _).1 hticket
  · intro h
    rw [get, run_bind_of ((decodeTicket_exact _ _ _).2 h)]
    rfl

theorem CommitDecisionMessage.lawful :
    Lawful (fun m : CommitDecisionMessage => m.ticket.OnWire) encode decode := by
  refine .of_iff (decodeTicketFields_canonical.delimited.comap fun m n h => ?_) fun payload m => ?_
  · cases m
    cases n
    cases h
    rfl
  · exact exact_iff get_exact.finished payload m

structure RevalidateMessage.OnWire (m : RevalidateMessage) : Prop where
  policy : m.policy.valid = true
  attempt : m.attempt.valid = true

theorem RevalidateMessage.get_canonical : Canonical OnWire encode get := by
  refine Parses.canonical (.field getId_canonical RevalidateMessage.policy fun _ =>
    .field getId_canonical RevalidateMessage.attempt fun _ => .done _) (fun _ => rfl) ?_ ?_
  · intro m
    simp [encode]
  · intro m
    constructor
    · intro h
      exact ⟨h.1, h.2.1⟩
    · intro h
      exact ⟨h.policy, h.attempt, trivial⟩

structure RollbackMessage.OnWire (m : RollbackMessage) : Prop where
  policy : m.policy.valid = true
  reason : Short m.reason

theorem RollbackMessage.get_canonical : Canonical OnWire encode get := by
  refine Parses.canonical (.field getId_canonical RollbackMessage.policy fun _ =>
    .field getText_canonical RollbackMessage.reason fun _ => .done _) (fun _ => rfl) ?_ ?_
  · intro m
    simp [encode]
  · intro m
    constructor
    · intro h
      exact ⟨h.1, h.2.1⟩
    · intro h
      exact ⟨h.policy, h.reason, trivial⟩

/-! ## Queries -/

theorem QueryStateMessage.get_canonical :
    Canonical (fun _ : QueryStateMessage => True) encode get :=
  Parses.canonical (.field getOptionalId_canonical QueryStateMessage.policy fun _ =>
    .field getU64_canonical QueryStateMessage.limit fun _ => .done _) (fun _ => rfl)
    (by simp [encode]) (by simp)

theorem SnapshotRequestMessage.get_canonical :
    Canonical (fun m : SnapshotRequestMessage => m.policy.valid = true) encode get :=
  Parses.canonical (.field getId_canonical SnapshotRequestMessage.policy fun _ => .done _)
    (fun _ => rfl) (by simp [encode]) (by simp)

structure SnapshotResponseMessage.OnWire (m : SnapshotResponseMessage) : Prop where
  snapshot : m.snapshot.valid = true
  policy : m.policy.valid = true
  digest : Short m.digest
  rendered : Short m.rendered

theorem SnapshotResponseMessage.get_canonical : Canonical OnWire encode get := by
  refine Parses.canonical (.field getId_canonical SnapshotResponseMessage.snapshot fun _ =>
    .field getId_canonical SnapshotResponseMessage.policy fun _ =>
    .field getText_canonical SnapshotResponseMessage.digest fun _ =>
    .field getText_canonical SnapshotResponseMessage.rendered fun _ => .done _) (fun _ => rfl) ?_ ?_
  · intro m
    simp [encode]
  · intro m
    constructor
    · intro h
      exact ⟨h.1, h.2.1, h.2.2.1, h.2.2.2.1⟩
    · intro h
      exact ⟨h.snapshot, h.policy, h.digest, h.rendered, trivial⟩

theorem explanationTopics_canonical :
    Canonical (fun _ => True) (fun topic => putU8 topic.code) (explanationTopics.read getU8 ()) :=
  explanationTopics.canonical getU8_canonical ()

theorem ExplainRequestMessage.get_canonical :
    Canonical (fun m : ExplainRequestMessage => m.policy.valid = true) encode get :=
  Parses.canonical (.field explanationTopics_canonical ExplainRequestMessage.topic fun _ =>
    .field getId_canonical ExplainRequestMessage.policy fun _ => .done _) (fun _ => rfl)
    (by simp [encode]) (by simp)

structure DiffRequestMessage.OnWire (m : DiffRequestMessage) : Prop where
  policy : m.policy.valid = true
  before : m.before.valid = true
  after : m.after.valid = true

theorem DiffRequestMessage.get_canonical : Canonical OnWire encode get := by
  refine Parses.canonical (.field getId_canonical DiffRequestMessage.policy fun _ =>
    .field getId_canonical DiffRequestMessage.before fun _ =>
    .field getId_canonical DiffRequestMessage.after fun _ => .done _) (fun _ => rfl) ?_ ?_
  · intro m
    simp [encode]
  · intro m
    constructor
    · intro h
      exact ⟨h.1, h.2.1, h.2.2.1⟩
    · intro h
      exact ⟨h.policy, h.before, h.after, trivial⟩

/-! ## Responses -/

structure ResultMessage.OnWire (m : ResultMessage) : Prop where
  detail : Short m.detail
  rendered : Short m.rendered

theorem ResultMessage.get_canonical : Canonical OnWire encode get := by
  refine Parses.canonical (.field outcomes_canonical ResultMessage.outcome fun _ =>
    .field suppressionReasons_canonical ResultMessage.suppression fun _ =>
    .field getText_canonical ResultMessage.detail fun _ =>
    .field getOptionalId_canonical ResultMessage.policy fun _ =>
    .field getOptionalGeneration_canonical ResultMessage.policyGeneration fun _ =>
    .field getOptionalId_canonical ResultMessage.decision fun _ =>
    .field getOptionalGeneration_canonical ResultMessage.adaptationGeneration fun _ =>
    .field getOptionalGeneration_canonical ResultMessage.transitionGeneration fun _ =>
    .field getOptionalGeneration_canonical ResultMessage.evidenceGeneration fun _ =>
    .field getOptionalGeneration_canonical ResultMessage.epoch fun _ =>
    .field getText_canonical ResultMessage.rendered fun _ => .done _) (fun _ => rfl) ?_ ?_
  · intro m
    unfold encode
    simp only [List.append_assoc, List.append_nil]
  · intro m
    constructor
    · intro h
      obtain ⟨-, -, hdetail, -, -, -, -, -, -, -, hrendered, -⟩ := h
      exact ⟨hdetail, hrendered⟩
    · intro h
      exact ⟨trivial, trivial, h.detail, trivial, trivial, trivial, trivial, trivial, trivial, trivial,
        h.rendered, trivial⟩

theorem ErrorMessage.get_canonical :
    Canonical (fun m : ErrorMessage => Short m.detail) encode get :=
  Parses.canonical (.field outcomes_canonical ErrorMessage.outcome fun _ =>
    .field getText_canonical ErrorMessage.detail fun _ => .done _) (fun _ => rfl)
    (by simp [encode]) (by simp)

/-! ## All payloads -/

/-- Every payload decoder inverts its encoder. -/
structure Wire.PayloadLaws : Prop where
  hello : Lawful HelloMessage.OnWire HelloMessage.encode HelloMessage.decode
  register : Lawful RegisterPublisherMessage.OnWire RegisterPublisherMessage.encode
    RegisterPublisherMessage.decode
  fence : Lawful FenceNoticeMessage.OnWire FenceNoticeMessage.encode FenceNoticeMessage.decode
  create : Lawful CreatePolicyMessage.OnWire CreatePolicyMessage.encode CreatePolicyMessage.decode
  update : Lawful UpdatePolicyMessage.OnWire UpdatePolicyMessage.encode UpdatePolicyMessage.decode
  lifecycle : Lawful PolicyLifecycleMessage.OnWire PolicyLifecycleMessage.encode
    PolicyLifecycleMessage.decode
  revoke : Lawful RevokePolicyMessage.OnWire RevokePolicyMessage.encode RevokePolicyMessage.decode
  upstream : Lawful (fun m : UpstreamNotifyMessage =>
    Bounded UpstreamNotification.OnWire m.notifications) UpstreamNotifyMessage.encode
    UpstreamNotifyMessage.decode
  evidence : Lawful (fun m : PublishEvidenceMessage =>
    Bounded (fun publication => publication.wellFormed = true) m.publications)
    PublishEvidenceMessage.encode PublishEvidenceMessage.decode
  evaluate : Lawful (fun m : EvaluateMessage => m.policy.valid = true) EvaluateMessage.encode
    EvaluateMessage.decode
  commit : Lawful (fun m : CommitDecisionMessage => m.ticket.OnWire) CommitDecisionMessage.encode
    CommitDecisionMessage.decode
  revalidate : Lawful RevalidateMessage.OnWire RevalidateMessage.encode RevalidateMessage.decode
  rollback : Lawful RollbackMessage.OnWire RollbackMessage.encode RollbackMessage.decode
  query : Lawful (fun _ : QueryStateMessage => True) QueryStateMessage.encode
    QueryStateMessage.decode
  snapshotRequest : Lawful (fun m : SnapshotRequestMessage => m.policy.valid = true)
    SnapshotRequestMessage.encode SnapshotRequestMessage.decode
  snapshotResponse : Lawful SnapshotResponseMessage.OnWire SnapshotResponseMessage.encode
    SnapshotResponseMessage.decode
  explain : Lawful (fun m : ExplainRequestMessage => m.policy.valid = true)
    ExplainRequestMessage.encode ExplainRequestMessage.decode
  diff : Lawful DiffRequestMessage.OnWire DiffRequestMessage.encode DiffRequestMessage.decode
  advanceEpoch : Lawful (fun m : AdvanceEpochMessage => Short m.reason) AdvanceEpochMessage.encode
    AdvanceEpochMessage.decode
  result : Lawful ResultMessage.OnWire ResultMessage.encode ResultMessage.decode
  error : Lawful (fun m : ErrorMessage => Short m.detail) ErrorMessage.encode ErrorMessage.decode

theorem Wire.payload_laws : PayloadLaws where
  hello := lawful HelloMessage.get_canonical
  register := lawful RegisterPublisherMessage.get_canonical
  fence := lawful FenceNoticeMessage.get_canonical
  create := lawful CreatePolicyMessage.get_canonical
  update := lawful UpdatePolicyMessage.get_canonical
  lifecycle := lawful PolicyLifecycleMessage.get_canonical
  revoke := lawful RevokePolicyMessage.get_canonical
  upstream := lawful UpstreamNotifyMessage.get_canonical
  evidence := lawful PublishEvidenceMessage.get_canonical
  evaluate := lawful EvaluateMessage.get_canonical
  commit := CommitDecisionMessage.lawful
  revalidate := lawful RevalidateMessage.get_canonical
  rollback := lawful RollbackMessage.get_canonical
  query := lawful QueryStateMessage.get_canonical
  snapshotRequest := lawful SnapshotRequestMessage.get_canonical
  snapshotResponse := lawful SnapshotResponseMessage.get_canonical
  explain := lawful ExplainRequestMessage.get_canonical
  diff := lawful DiffRequestMessage.get_canonical
  advanceEpoch := lawful AdvanceEpochMessage.get_canonical
  result := lawful ResultMessage.get_canonical
  error := lawful ErrorMessage.get_canonical

/-- A flag that is neither zero nor one, and a byte behind the flag. -/
example : EvaluateMessage.decode (putString "p" ++ [2]) = none ∧
    EvaluateMessage.decode (putString "p" ++ [1, 0]) = none := by
  decide +kernel

end AdaptiveRouting
