import AdaptiveRouting.Proof.Honesty
import AdaptiveRouting.Proof.Minting
import AdaptiveRouting.Proof.Replay
import AdaptiveRouting.Proof.Staleness
import AdaptiveRouting.Proof.Tenure

/-!
# Frames sent again

The attempt of a frame is named after its session and its number (`composeAttempt_inj`), so a frame that
is sent again is a new attempt, which the table does not know (`Tenure.unlisted_run`). It is answered
as a replay exactly when its operation is `Recognised` by something else: the registration or the
revocation it asks for is there already, or the ticket it hands in says so itself
(`Tenure.replays_iff`).
-/

namespace AdaptiveRouting

open Guard Engine

/-! ## The attempts of a session -/

theorem natText_digits (n : Nat) : ∀ c ∈ natText n, ∃ d : Fin 10, c = UInt8.ofNat (48 + d) := by
  intro c hc
  obtain ⟨digit, hd, rfl⟩ := List.mem_map.1 hc
  have hdigit := Nat.isDigit_of_mem_toDigits (by decide) (by decide) hd
  simp only [Char.isDigit, Bool.and_eq_true, decide_eq_true_eq] at hdigit
  have hlow : 48 ≤ digit.val.toNat := UInt32.le_iff_toNat_le.1 hdigit.1
  have hhigh : digit.val.toNat ≤ 57 := UInt32.le_iff_toNat_le.1 hdigit.2
  refine ⟨⟨digit.val.toNat - 48, by omega⟩, ?_⟩
  show UInt8.ofNat digit.val.toNat = UInt8.ofNat (48 + (digit.val.toNat - 48))
  congr 1
  omega

theorem digit_allowed : ∀ d : Fin 10, idCharAllowed (UInt8.ofNat (48 + d)) = true ∧
    idEdgeCharAllowed (UInt8.ofNat (48 + d)) = true ∧ UInt8.ofNat (48 + d) ≠ 0x2D := by
  decide

theorem natText_length (n : UInt64) : (natText n.toNat).length ≤ 20 := by
  unfold natText
  rw [List.length_map]
  apply (Nat.length_toDigits_le_iff (by decide) (by decide)).2
  have hlt := n.toNat_lt
  omega

theorem natText_ne_nil (n : Nat) : natText n ≠ [] := by
  unfold natText
  simp

/-- What a session is called in its attempts. -/
def SessionId.label (session : SessionId) : Text := if session.valid then session.text else "anonymous"

theorem SessionId.label_ok (session : SessionId) : idEncodingOk 64 session.label = true := by
  unfold SessionId.label
  split
  · rename_i hvalid
    rcases session.ok with hempty | hok
    · simp [StrongId.valid, hempty] at hvalid
    · exact hok
  · decide

/-- The text of an attempt ends in a dash and the number, and fits. -/
theorem numbered_ok {label : Text} (hlabel : idEncodingOk 64 label = true) (n : UInt64) :
    idEncodingOk 64 (label.take (64 - ((natText n.toNat).length + 1)) ++ 0x2D :: natText n.toNat) =
      true := by
  have hlength := natText_length n
  unfold idEncodingOk at hlabel ⊢
  simp only [Bool.and_eq_true, decide_eq_true_eq, List.all_eq_true] at hlabel ⊢
  obtain ⟨⟨-, hall⟩, hedges⟩ := hlabel
  refine ⟨⟨?_, fun c hc => ?_⟩, ?_⟩
  · rw [List.length_append, List.length_take, List.length_cons]
    omega
  · rcases List.mem_append.1 hc with hc | hc
    · exact hall c (List.mem_of_mem_take hc)
    · rcases List.mem_cons.1 hc with rfl | hc
      · decide
      · obtain ⟨d, rfl⟩ := natText_digits _ c hc
        exact (digit_allowed d).1
  · have hlast : (label.take (64 - ((natText n.toNat).length + 1)) ++
        0x2D :: natText n.toNat).getLast? = (natText n.toNat).getLast? := by
      rw [List.getLast?_append_of_ne_nil _ (by simp), List.getLast?_cons_of_ne_nil (natText_ne_nil _)]
    have hhead : (label.take (64 - ((natText n.toNat).length + 1)) ++
        0x2D :: natText n.toNat).head? = label.head? := by
      cases label with
      | nil => cases hedges
      | cons front rest =>
        obtain ⟨room, hroom⟩ : ∃ room, 64 - ((natText n.toNat).length + 1) = room + 1 :=
          ⟨63 - ((natText n.toNat).length + 1), by omega⟩
        rw [hroom]
        rfl
    have hlastDigit := List.getLast?_eq_some_getLast (natText_ne_nil n.toNat)
    obtain ⟨d, hd⟩ := natText_digits _ _ (List.getLast_mem (natText_ne_nil n.toNat))
    rw [hlast, hhead, hlastDigit, hd]
    cases hfront : label.head? with
    | none =>
      rw [hfront] at hedges
      cases hedges
    | some front =>
      cases hback : label.getLast? with
      | none =>
        rw [hfront, hback] at hedges
        cases hedges
      | some back =>
        rw [hfront, hback] at hedges
        exact Bool.and_eq_true_iff.2 ⟨(Bool.and_eq_true_iff.1 hedges).1, (digit_allowed d).2.1⟩

theorem composeAttempt_text (session : SessionId) (n : UInt64) :
    (composeAttempt session n).text =
      session.label.take (64 - ((natText n.toNat).length + 1)) ++ 0x2D :: natText n.toNat := by
  have hparse : StrongId.parse
      (session.label.take (64 - ((natText n.toNat).length + 1)) ++ 0x2D :: natText n.toNat) =
      some (⟨_, .inr (numbered_ok session.label_ok n)⟩ : MutationAttemptId) :=
    StrongId.parse_iff.2 ⟨by simp [StrongId.valid], rfl⟩
  have hsuffix : Text.concat ["-", natText n.toNat] = 0x2D :: natText n.toNat := by
    have hdash : ("-" : Text) = [0x2D] := by decide
    rw [hdash]
    simp [Text.concat]
  unfold composeAttempt
  dsimp only
  rw [hsuffix, List.length_cons]
  change (((StrongId.parse (session.label.take (64 - ((natText n.toNat).length + 1)) ++
    0x2D :: natText n.toNat)).orElse _).getD default).text = _
  rw [hparse]
  rfl

theorem composeAttempt_valid (session : SessionId) (n : UInt64) :
    (composeAttempt session n).valid = true := by
  unfold StrongId.valid
  rw [composeAttempt_text]
  simp

/-- The number of a frame is read off the end of its attempt. -/
theorem composeAttempt_number (session : SessionId) (n : UInt64) :
    (composeAttempt session n).text.reverse.takeWhile (· != 0x2D) = (natText n.toNat).reverse := by
  have hdigits : ∀ c ∈ (natText n.toNat).reverse, (c != 0x2D) = true := fun c hc => by
    obtain ⟨d, rfl⟩ := natText_digits _ c (List.mem_reverse.1 hc)
    exact bne_iff_ne.2 (digit_allowed d).2.2
  rw [composeAttempt_text, List.reverse_append, List.reverse_cons, List.append_assoc,
    List.takeWhile_append_of_pos hdigits]
  simp

/-- The frames of a session are numbered by their attempts. -/
theorem composeAttempt_inj {session : SessionId} {m n : UInt64} :
    composeAttempt session m = composeAttempt session n ↔ m = n := by
  refine ⟨fun h => ?_, fun h => by rw [h]⟩
  have hm := composeAttempt_number session m
  rw [h, composeAttempt_number] at hm
  exact (UInt64.toNat_inj.1 (natText_inj (List.reverse_injective hm))).symm

/-! ## Recognised operations -/

section
variable {config : EngineConfig} {e e' : Engine} {op : Op} {answer : Answer}

/-- What makes an operation be answered as a replay. -/
inductive Recognised (config : EngineConfig) (e : Engine) (op : Op) : Prop
  | listed {context : MutationContext} {kept : AttemptRecord} (carries : op.context = some context)
      (lists : e.state.attempts[context.attempt]? = some kept)
      (prints : Prints config.limits e op kept.fingerprint) (own : op.handedIn = none)
      (authority : HoldsAuthority e.state op) (agrees : Repeats config.limits e op)
  | revoked {request : RevokePolicyRequest} (asks : op = .revokePolicy request)
      (authority : HoldsAuthority e.state op) (agrees : Repeats config.limits e op)
  | registered {publisher : PublisherId} {boot : WorkerBootId} {scope : AuthorityScope}
      {session : SessionId} {registration : PublisherRegistration}
      (asks : op = .registerPublisher publisher boot scope session)
      (unfenced : boot ∉ e.state.fencedBoots)
      (found : e.state.registrations[publisher]? = some registration)
      (same : registration = { registration with
        workerBoot := boot, scope, session, epoch := e.state.epoch
        authorityGeneration := e.state.authorityGeneration })
  | presented (tells : op.handedIn = some .idempotent)
  | untraced {now : Ticks} {request : CommitDecisionRequest} {record : PolicyRecord}
      {id : AdaptationDecisionId} {ids : IdFactory} (asks : op = .commitEvaluation now request)
      (checks : e.state.commitChecks request = .ok record)
      (ineligible : request.ticket.lifecycle ≠ .eligible)
      (tells : request.ticket.outcome = .idempotent)
      (identity : decisionIdentity request.ticket e.ids = some (id, ids))
      (traceless :
        ((e.state.putRecord request.ticket.dependencies.policy (record.remember config.limits
          (historyEntry (e.state.suppressedDecision record request id) now))).journal config.limits
          (e.state.suppressedDecision record request id)).recordAttempt config.limits
          request.context.attempt (fingerprintCommit request.ticket) request.ticket.outcome
          (e.state.suppressedDecision record request id).digest = e.state)

theorem revokeChecks_compared {s : State} {limits : Limits} {request : RevokePolicyRequest}
    (hp : State.Passing (s.revokeChecks limits request)) :
    HoldsAuthority s (.revokePolicy request) := by
  unfold State.revokeChecks at hp
  obtain ⟨-, hp⟩ := hp.seq (makeResult_isRejection rfl)
  obtain ⟨record, hfound, hp⟩ := hp.bind (.found (makeResult_isRejection rfl))
  obtain ⟨registration, hcaller, -⟩ := hp.bind (s.requireCaller_rejecting _ _ _ _)
  exact ⟨record, registration, orRefuse_ok hfound, State.requireCaller_ok hcaller⟩

theorem publishChecks_authorized {s : State} {limits : Limits} {request : PublishEvidenceRequest}
    (hp : State.Passing (s.publishChecks limits request)) :
    ∃ registration, Authorized s request.context none none registration := by
  unfold State.publishChecks at hp
  obtain ⟨-, hp⟩ := hp.seq (makeResult_isRejection rfl)
  obtain ⟨-, hp⟩ := hp.seq (makeResult_isRejection rfl)
  obtain ⟨registration, hcaller, -⟩ := hp.bind (s.requireCaller_rejecting _ _ _ _)
  exact ⟨registration, State.requireCaller_ok hcaller⟩

theorem commitChecks_authorized {s : State} {request : CommitDecisionRequest}
    (hticket : request.ticket.lifecycle ≠ .rejected) (hp : State.Passing (s.commitChecks request)) :
    ∃ registration, Authorized s request.context none none registration := by
  unfold State.commitChecks at hp
  obtain ⟨⟨⟩, -, hp⟩ := hp.bind fun answer hrefused => by
    obtain ⟨hrejected, -⟩ := refuseIf_error hrefused
    exact absurd (by simpa using hrejected) hticket
  obtain ⟨-, hp⟩ := hp.seq (makeResult_isRejection rfl)
  obtain ⟨registration, hcaller, -⟩ := hp.bind (s.requireCaller_rejecting _ _ _ _)
  exact ⟨registration, State.requireCaller_ok hcaller⟩

/-- A request that is answered as a replay passed the caller check, if there is one ahead of it. -/
theorem Replays.authority (h : Replays config e op) (hown : op.handedIn = none) :
    HoldsAuthority e.state op := by
  obtain ⟨e', result, hstep, hidempotent, -⟩ := h
  have hsucceeds := Answer.succeeds_of_idempotent hidempotent
  have hpasses {r : OperationResult} (hr : RefusedBy config.limits e.state r op) :
      ¬ r.outcome.isRejection = true := succeeds_passes hstep hsucceeds hr
  cases op with
  | createPolicy now request => exact State.createChecks_passed fun r hr => hpasses hr
  | updatePolicy now request => exact State.updateChecks_passed fun r hr => hpasses hr
  | revokePolicy request => exact revokeChecks_compared fun r hr => hpasses hr
  | publishEvidence clock request => exact publishChecks_authorized fun r hr => hpasses hr
  | rollback now request =>
    obtain ⟨-, record, registration, hfound, hcaller, -⟩ :=
      State.rollbackChecks_compared
        (fun r hr => hpasses hr : State.Passing (e.state.rollbackChecks request))
    exact ⟨record, registration, hfound, hcaller⟩
  | commitEvaluation now request =>
    have hticket : request.ticket.lifecycle ≠ .rejected := by
      intro hrejected
      rw [Op.handedIn, if_pos hrejected] at hown
      cases hown
    exact commitChecks_authorized hticket fun r hr => hpasses hr
  | evaluate begun now request =>
    obtain ⟨⟨e₁, r⟩, hevaluate, he⟩ := Option.map_eq_some_iff.1 hstep
    cases he
    obtain ⟨_, ticket, refusal, -, -, hlifecycle, hchecks, hrefusal⟩ :=
      evaluate_replays hevaluate hidempotent
    have hp : State.Passing (e.state.commitChecks { ticket, context := request.context }) :=
      .of_error hchecks fun hrejects => rejection_ne_idempotent hrejects hrefusal
    exact @commitChecks_authorized e.state { ticket, context := request.context } hlifecycle hp
  | _ => trivial

/-- A replayed answer comes from the table. -/
theorem Replayed.lists {s : State} {attempt : MutationAttemptId} {fingerprint : Text}
    {result : OperationResult} (h : Replayed s attempt fingerprint result)
    (hidempotent : result.outcome = .idempotent) :
    ∃ kept, s.attempts[attempt]? = some kept ∧ kept.fingerprint = fingerprint := by
  rcases h with hrejects | ⟨-, -, kept, hkept, hprint⟩
  · exact absurd hidempotent (rejection_ne_idempotent hrejects)
  · exact ⟨kept, hkept, hprint⟩

theorem registerPublisher_recognised {publisher : PublisherId} {boot : WorkerBootId}
    {scope : AuthorityScope} {session : SessionId}
    (hidempotent : (e.state.registerPublisher config.limits publisher boot scope session).2.outcome =
      .idempotent)
    (hsame : (e.state.registerPublisher config.limits publisher boot scope session).1 = e.state) :
    Recognised config e (.registerPublisher publisher boot scope session) := by
  unfold State.registerPublisher at hidempotent hsame
  cases hchecks : e.state.registerChecks config.limits publisher boot scope session with
  | error refusal =>
    simp only [hchecks] at hidempotent
    exact absurd hidempotent
      (rejection_ne_idempotent (e.state.registerChecks_rejecting _ _ _ _ _ refusal hchecks))
  | ok _ =>
    simp only [hchecks] at hidempotent hsame
    cases hfound : e.state.registrations[publisher]? with
    | none => simp [hfound] at hidempotent
    | some existing =>
      simp only [hfound] at hidempotent hsame
      split at hidempotent
      · rename_i hboot
        rw [if_pos hboot] at hsame
        have hregistrations := congrArg (fun s : State => s.registrations[publisher]?) hsame
        simp only [Std.ExtTreeMap.getElem?_insert_self, hfound] at hregistrations
        refine .registered rfl (registerChecks_unfenced hchecks) hfound ?_
        rw [← hboot]
        exact (Option.some.inj hregistrations).symm
      · simp at hidempotent

theorem commitEvaluation_recognised {now : Ticks} {request : CommitDecisionRequest}
    {result : OperationResult}
    (h : commitEvaluation config.limits e now request = some (e', result))
    (hidempotent : result.outcome = .idempotent) (hsame : e'.state = e.state) :
    Recognised config e (.commitEvaluation now request) := by
  have hreplays : Replays config e (.commitEvaluation now request) :=
    ⟨e', result, by rw [Engine.step, h]; rfl, hidempotent, hsame⟩
  by_cases hticket : request.ticket.lifecycle = .rejected
  · have houtcome := ((commitEvaluation_cases h).rejected hticket).2
    refine .presented ?_
    rw [Op.handedIn, if_pos hticket, ← houtcome, hidempotent]
  have hown : (Op.commitEvaluation now request).handedIn = none := if_neg hticket
  obtain ⟨⟨e₁, r⟩, hcommit, he⟩ := Option.map_eq_some_iff.1 h
  cases he
  unfold commitTicket at hcommit
  dsimp only at hcommit
  cases hchecks : e.state.commitChecks request with
  | error refusal =>
    simp only [hchecks] at hcommit
    cases hcommit
    obtain ⟨kept, hkept, hprint⟩ :=
      (e.state.commitChecks_replayed request hticket result hchecks).lists hidempotent
    exact .listed rfl hkept (hprint ▸ .commit .commit) hown (hreplays.authority hown)
      (hreplays.repeats rfl)
  | ok record =>
    simp only [hchecks] at hcommit
    split at hcommit
    · rename_i hineligible
      unfold recordSuppression at hcommit
      obtain ⟨⟨id, ids⟩, hidentity, hcommit⟩ := Option.bind_eq_some_iff.1 hcommit
      cases hcommit
      rw [settled_state] at hsame
      have htells : request.ticket.outcome = .idempotent :=
        (State.makeResult_outcome ..).symm.trans hidempotent
      exact .untraced rfl hchecks hineligible htells hidentity hsame
    · split at hcommit
      · cases hcommit
        simp at hidempotent
      · split at hcommit
        · rename_i outcome detail hverify
          cases hcommit
          refine absurd ((State.makeResult_outcome ..).symm.trans hidempotent) ?_
          exact rejection_ne_idempotent (e.state.verifyCommit_refuses _ _ _ _ _ hverify)
        · unfold installCommit at hcommit
          obtain ⟨⟨transition, ids⟩, -, hcommit⟩ := Option.bind_eq_some_iff.1 hcommit
          obtain ⟨⟨id, ids'⟩, -, hcommit⟩ := Option.bind_eq_some_iff.1 hcommit
          cases hcommit
          simp at hidempotent

/-- The checks of an operation answered as a replay found its attempt. -/
theorem Replays.lists {attempt : MutationAttemptId} {fingerprint : Text} {refusal : OperationResult}
    (h : Replays config e op) (hrefused : RefusedBy config.limits e.state refusal op)
    (hreplayed : Replayed e.state attempt fingerprint refusal) :
    ∃ kept, e.state.attempts[attempt]? = some kept ∧ kept.fingerprint = fingerprint := by
  obtain ⟨e', result, hstep, hidempotent, -⟩ := h
  obtain ⟨_, hanswered, -⟩ := step_refused hrefused
  rw [hstep] at hanswered
  cases hanswered
  exact hreplayed.lists hidempotent

/-- An operation answered as a replay is recognised. -/
theorem Replays.recognised (h : Replays config e op)
    (hop : ∀ now decoded origin, op ≠ .decodeStore now decoded origin) :
    Recognised config e op := by
  have hauthority (hown : op.handedIn = none) := h.authority hown
  have hrepeats (hcarries : op.context.isSome = true) := h.repeats hcarries
  have hlists {attempt : MutationAttemptId} {fingerprint : Text} {refusal : OperationResult}
      (hrefused : RefusedBy config.limits e.state refusal op)
      (hreplayed : Replayed e.state attempt fingerprint refusal) := h.lists hrefused hreplayed
  obtain ⟨e', result, hstep, hidempotent, hsame⟩ := h
  cases op with
  | registerPublisher publisher boot scope session =>
    cases hstep
    exact registerPublisher_recognised hidempotent hsame
  | fencePublisher publisher boot cause =>
    cases hstep
    unfold State.fencePublisher at hidempotent
    split at hidempotent
    · simp at hidempotent
    · split at hidempotent <;> simp at hidempotent
  | advanceEpoch reason =>
    cases hstep
    unfold State.advanceEpoch at hidempotent
    split at hidempotent
    · simp at hidempotent
    · dsimp only at hidempotent
      split at hidempotent <;> simp at hidempotent
  | createPolicy now request =>
    obtain ⟨⟨e₁, r⟩, hcreate, he⟩ := Option.map_eq_some_iff.1 hstep
    cases he
    unfold createPolicy at hcreate
    dsimp only at hcreate
    cases hchecks : e.state.createChecks config.limits request with
    | error refusal =>
      obtain ⟨kept, hkept, hprint⟩ :=
        hlists hchecks (e.state.createChecks_replayed config.limits request refusal hchecks)
      exact .listed rfl hkept (hprint ▸ .create) rfl (hauthority rfl) (hrepeats rfl)
    | ok fingerprint =>
      simp only [hchecks] at hcreate
      split at hcreate
      · cases hcreate
        simp at hidempotent
      · split at hcreate
        · cases hcreate
          simp at hidempotent
        · obtain ⟨⟨id, ids⟩, -, hcreate⟩ := Option.bind_eq_some_iff.1 hcreate
          cases hcreate
          cases (State.makeResult_outcome ..).symm.trans hidempotent
  | updatePolicy now request =>
    cases hstep
    cases hchecks : e.state.updateChecks config.limits request with
    | error refusal =>
      obtain ⟨kept, hkept, hprint⟩ :=
        hlists hchecks (e.state.updateChecks_replayed config.limits request refusal hchecks)
      exact .listed rfl hkept (hprint ▸ .update) rfl (hauthority rfl) (hrepeats rfl)
    | ok accepted => simp [State.updatePolicy, hchecks] at hidempotent
  | applyUpstream request =>
    cases hstep
    cases hchecks : e.state.upstreamChecks config.limits request with
    | error refusal =>
      obtain ⟨kept, hkept, hprint⟩ :=
        hlists hchecks (e.state.upstreamChecks_replayed config.limits request refusal hchecks)
      exact .listed rfl hkept (hprint ▸ .upstream) rfl (hauthority rfl) (hrepeats rfl)
    | ok fingerprint =>
      unfold State.applyUpstream at hidempotent
      simp only [hchecks] at hidempotent
      split at hidempotent
      · rename_i refusal happlied
        exact absurd hidempotent
          (rejection_ne_idempotent (State.applyNotifications_rejects happlied))
      · simp at hidempotent
  | publishEvidence clock request =>
    cases hstep
    cases hchecks : e.state.publishChecks config.limits request with
    | error refusal =>
      obtain ⟨kept, hkept, hprint⟩ :=
        hlists hchecks (e.state.publishChecks_replayed config.limits request refusal hchecks)
      exact .listed rfl hkept (hprint ▸ .publish) rfl (hauthority rfl) (hrepeats rfl)
    | ok fingerprint =>
      unfold State.publishEvidence at hidempotent
      simp only [hchecks] at hidempotent
      split at hidempotent <;> simp at hidempotent
  | transitionPolicy request =>
    cases hstep
    exact absurd hidempotent (e.state.transitionPolicy_outcome request)
  | revalidate policy context =>
    cases hstep
    exact absurd hidempotent (e.state.transitionPolicy_outcome _)
  | revokePolicy request => exact .revoked rfl (hauthority rfl) (hrepeats rfl)
  | beginEvaluation now request =>
    obtain ⟨_, -, he⟩ := Option.map_eq_some_iff.1 hstep
    cases he
  | snapshot now policy =>
    obtain ⟨_, -, he⟩ := Option.map_eq_some_iff.1 hstep
    cases he
  | commitEvaluation now request =>
    obtain ⟨⟨e₁, r⟩, hcommit, he⟩ := Option.map_eq_some_iff.1 hstep
    cases he
    exact commitEvaluation_recognised hcommit hidempotent hsame
  | evaluate begun now request =>
    obtain ⟨⟨e₁, r⟩, hevaluate, he⟩ := Option.map_eq_some_iff.1 hstep
    cases he
    obtain ⟨_, ticket, refusal, hbegin, -, hlifecycle, hchecks, hrefusal⟩ :=
      evaluate_replays hevaluate hidempotent
    obtain ⟨kept, hkept, hprint⟩ :=
      (e.state.commitChecks_replayed _ hlifecycle refusal hchecks).lists hrefusal
    exact .listed rfl hkept (hprint ▸ .commit (.evaluate hbegin)) rfl (hauthority rfl)
      (hrepeats rfl)
  | rollback now request =>
    obtain ⟨⟨e₁, r⟩, hrollback, he⟩ := Option.map_eq_some_iff.1 hstep
    cases he
    have heffect := rollback_cases hrollback
    generalize e₁.state = s', result.outcome = outcome at heffect hidempotent
    cases heffect with
    | @refused refusal checks =>
      obtain ⟨kept, hkept, hprint⟩ :=
        (e.state.rollbackChecks_replayed request refusal checks).lists hidempotent
      exact .listed rfl hkept (hprint ▸ .rollback) rfl (hauthority rfl) (hrepeats rfl)
    | declined checks verified =>
      exact absurd hidempotent
        (rejection_ne_idempotent (State.verifyRollback_refuses _ _ verified))
    | recorded checks verified =>
      exact absurd hidempotent
        (rejection_ne_idempotent (State.verifyRollback_refuses _ _ verified))
    | _ => cases hidempotent
  | decodeStore now decoded origin => exact absurd rfl (hop now decoded origin)

/-- A registration that stands as it was asked for is repeated. -/
theorem registerPublisher_replays {e₁ : Engine} {publisher : PublisherId} {boot : WorkerBootId}
    {scope : AuthorityScope} {session : SessionId} {registration : PublisherRegistration}
    (hfirst : (e₁.state.registerPublisher config.limits publisher boot scope
      session).2.outcome.isRejection = false)
    (hunfenced : boot ∉ e.state.fencedBoots)
    (hfound : e.state.registrations[publisher]? = some registration)
    (hsame : registration = { registration with
      workerBoot := boot, scope, session, epoch := e.state.epoch
      authorityGeneration := e.state.authorityGeneration }) :
    Replays config e (.registerPublisher publisher boot scope session) := by
  have hchecks : e.state.registerChecks config.limits publisher boot scope session = .ok () := by
    cases hbefore : e₁.state.registerChecks config.limits publisher boot scope session with
    | error refusal =>
      have hrejects := e₁.state.registerChecks_rejecting _ _ _ _ _ refusal hbefore
      unfold State.registerPublisher at hfirst
      simp only [hbefore] at hfirst
      rw [hrejects] at hfirst
      cases hfirst
    | ok u =>
      unfold State.registerChecks at hbefore ⊢
      obtain ⟨hvalid, hbefore⟩ := seq_ok hbefore
      obtain ⟨hformed, -⟩ := seq_ok hbefore
      have hboot : e.state.fencedBoots.contains boot = false :=
        Bool.eq_false_iff.2 fun hc => hunfenced (Std.ExtTreeSet.mem_iff_contains.2 hc)
      have hthere : e.state.registrations.contains publisher = true := by
        rw [Std.ExtTreeMap.contains_eq_isSome_getElem?, hfound]
        rfl
      rw [seq_of hvalid, seq_of hformed, seq_of hboot, hthere]
      rfl
  have hboot : registration.workerBoot = boot := by rw [hsame]
  have hstate : e.state.registerPublisher config.limits publisher boot scope session =
      (e.state, e.state.makeResult .idempotent "publisher incarnation re-registered" default) := by
    unfold State.registerPublisher
    simp only [hchecks, hfound, if_pos hboot]
    have hinsert : e.state.registrations.insert publisher { registration with
        scope, session, epoch := e.state.epoch
        authorityGeneration := e.state.authorityGeneration } = e.state.registrations := by
      have hwritten : ({ registration with
          scope, session, epoch := e.state.epoch
          authorityGeneration := e.state.authorityGeneration } : PublisherRegistration) =
          registration := by
        rw [hsame]
      rw [hwritten]
      exact insert_get hfound
    simp only [hinsert]
  have hstep : e.step config (.registerPublisher publisher boot scope session) = some (e, .result
      (e.state.makeResult .idempotent "publisher incarnation re-registered" default)) := by
    rw [Engine.step, Engine.onState, hstate]
  exact ⟨e, _, hstep, State.makeResult_outcome .., rfl⟩

/-- A suppression that leaves no trace is answered with the outcome of its ticket. -/
theorem commitEvaluation_untraced {now : Ticks} {request : CommitDecisionRequest}
    {record : PolicyRecord} {id : AdaptationDecisionId} {ids : IdFactory}
    (hchecks : e.state.commitChecks request = .ok record)
    (hineligible : request.ticket.lifecycle ≠ .eligible)
    (htells : request.ticket.outcome = .idempotent)
    (hidentity : decisionIdentity request.ticket e.ids = some (id, ids))
    (htraceless :
      ((e.state.putRecord request.ticket.dependencies.policy (record.remember config.limits
        (historyEntry (e.state.suppressedDecision record request id) now))).journal config.limits
        (e.state.suppressedDecision record request id)).recordAttempt config.limits
        request.context.attempt (fingerprintCommit request.ticket) request.ticket.outcome
        (e.state.suppressedDecision record request id).digest = e.state) :
    Replays config e (.commitEvaluation now request) := by
  have hcommit : ∃ e₁ result, commitTicket config.limits e now request = some (e₁, result) ∧
      result.outcome = request.ticket.outcome ∧ e₁.state = e.state := by
    unfold commitTicket recordSuppression
    simp only [hchecks, ne_eq, hineligible, not_false_eq_true, if_true, hidentity]
    exact ⟨_, _, rfl, State.makeResult_outcome .., htraceless⟩
  obtain ⟨e₁, result, hcommit, houtcome, hstate⟩ := hcommit
  refine ⟨e₁.settled, result, ?_, houtcome.trans htells, (settled_state e₁).trans hstate⟩
  rw [Engine.step, commitEvaluation, hcommit]
  rfl

theorem Op.commits_of_handedIn {outcome : Outcome} (h : op.handedIn = some outcome) :
    ∃ now request, op = .commitEvaluation now request := by
  cases op with
  | commitEvaluation now request => exact ⟨now, request, rfl⟩
  | _ => cases h

/-- What is recognised of a request that hands in no ticket. -/
theorem Recognised.agreed (h : Recognised config e op) (hcarries : op.context.isSome = true)
    (hticket : ∀ now request, op ≠ .commitEvaluation now request) :
    HoldsAuthority e.state op ∧ Repeats config.limits e op := by
  cases h with
  | listed _ _ _ _ authority agrees => exact ⟨authority, agrees⟩
  | revoked _ authority agrees => exact ⟨authority, agrees⟩
  | registered asks =>
    subst asks
    cases hcarries
  | presented tells =>
    obtain ⟨now, request, hop⟩ := Op.commits_of_handedIn tells
    exact absurd hop (hticket now request)
  | untraced asks => exact absurd asks (hticket _ _)

theorem Recognised.lists {context : MutationContext} {fingerprint : Text} (h : Recognised config e op)
    (hcarries : op.context = some context) (hown : op.fingerprint = some fingerprint)
    (hticket : ∀ now request, op ≠ .commitEvaluation now request) :
    ∃ kept, e.state.attempts[context.attempt]? = some kept ∧ kept.fingerprint = fingerprint := by
  cases h with
  | listed carries lists prints =>
    cases hcarries.symm.trans carries
    exact ⟨_, lists, prints.own hown⟩
  | revoked asks =>
    subst asks
    cases hown
  | registered asks =>
    subst asks
    cases hown
  | presented tells =>
    obtain ⟨now, request, hop⟩ := Op.commits_of_handedIn tells
    exact absurd hop (hticket now request)
  | untraced asks => exact absurd asks (hticket _ _)

theorem commitEvaluation_replays {now : Ticks} {request : CommitDecisionRequest}
    (h : Recognised config e (.commitEvaluation now request)) :
    Replays config e (.commitEvaluation now request) := by
  cases h with
  | listed carries lists prints own authority agrees =>
    cases carries
    obtain ⟨registration, hcaller⟩ := authority
    change if _ then _ else _ at agrees
    split at agrees
    · rename_i hticket
      rw [Op.handedIn, if_pos hticket] at own
      cases own
    · obtain ⟨record, hcompared⟩ := agrees
      exact .of_refused (State.commitChecks_repeat hcompared hcaller lists (prints.own rfl))
  | revoked asks => cases asks
  | registered asks => cases asks
  | presented tells =>
    change (if request.ticket.lifecycle = .rejected then some request.ticket.outcome else none) =
      some .idempotent at tells
    split at tells
    · rename_i hticket
      have hchecks := State.commitChecks_rejected e.state hticket
      exact .of_refused ⟨_, hchecks, (State.makeResult_outcome ..).trans (Option.some.inj tells)⟩
    · cases tells
  | untraced asks checks ineligible tells identity traceless =>
    cases asks
    exact commitEvaluation_untraced checks ineligible tells identity traceless

section
variable {e₁ e₁' : Engine} {op₁ : Op} {context : MutationContext}

theorem createPolicy_repeats {now₁ now : Ticks} {request : CreatePolicyRequest}
    (h : Recognised config e (.createPolicy now request))
    (hstep : e₁.step config (.createPolicy now₁ { request with context }) = some (e₁', answer))
    (hsucceeds : answer.succeeds = true) : Replays config e (.createPolicy now request) := by
  obtain ⟨hauthority, -⟩ := h.agreed rfl (by simp)
  obtain ⟨kept, hkept, hprint⟩ := h.lists rfl rfl (by simp)
  have hp : State.Passing (e₁.state.createChecks config.limits { request with context }) :=
    fun r hr => succeeds_passes hstep hsucceeds hr
  exact .of_refused (State.createChecks_repeat hp hauthority hkept hprint)

theorem revokePolicy_repeats {request : RevokePolicyRequest}
    (h : Recognised config e (.revokePolicy request))
    (hstep : e₁.step config (.revokePolicy { request with context }) = some (e₁', answer))
    (hsucceeds : answer.succeeds = true) : Replays config e (.revokePolicy request) := by
  obtain ⟨⟨record, registration, hfound, hcaller⟩, existing, hexisting, hreason⟩ :=
    h.agreed rfl (by simp)
  have hp : State.Passing (e₁.state.revokeChecks config.limits { request with context }) :=
    fun r hr => succeeds_passes hstep hsucceeds hr
  have hpolicy := State.revokeChecks_policy hp
  exact .of_refused (State.revokeChecks_repeat hpolicy hfound hcaller hexisting hreason)

theorem applyUpstream_repeats {request : UpstreamNotifyRequest}
    (h : Recognised config e (.applyUpstream request)) (hvalid : request.context.attempt.valid = true)
    (hstep : e₁.step config (.applyUpstream { request with context }) = some (e₁', answer))
    (hsucceeds : answer.succeeds = true) : Replays config e (.applyUpstream request) := by
  obtain ⟨kept, hkept, hprint⟩ := h.lists rfl rfl (by simp)
  have hp : State.Passing (e₁.state.upstreamChecks config.limits { request with context }) :=
    fun r hr => succeeds_passes hstep hsucceeds hr
  exact .of_refused (State.upstreamChecks_repeat hp hvalid hkept hprint)

theorem publishEvidence_repeats {clock₁ clock : Nat → Ticks} {request : PublishEvidenceRequest}
    (h : Recognised config e (.publishEvidence clock request))
    (hstep : e₁.step config (.publishEvidence clock₁ { request with context }) = some (e₁', answer))
    (hsucceeds : answer.succeeds = true) : Replays config e (.publishEvidence clock request) := by
  obtain ⟨hauthority, -⟩ := h.agreed rfl (by simp)
  obtain ⟨kept, hkept, hprint⟩ := h.lists rfl rfl (by simp)
  have hp : State.Passing (e₁.state.publishChecks config.limits { request with context }) :=
    fun r hr => succeeds_passes hstep hsucceeds hr
  exact .of_refused (State.publishChecks_repeat hp hauthority hkept hprint)

theorem rollback_repeats {now₁ now : Ticks} {request : RollbackRequest}
    (h : Recognised config e (.rollback now request))
    (hstep : e₁.step config (.rollback now₁ { request with context }) = some (e₁', answer))
    (hsucceeds : answer.succeeds = true) : Replays config e (.rollback now request) := by
  obtain ⟨⟨record, registration, hfound, hcaller⟩, _, hfound', hactive⟩ := h.agreed rfl (by simp)
  cases hfound.symm.trans hfound'
  obtain ⟨kept, hkept, hprint⟩ := h.lists rfl rfl (by simp)
  have hp : State.Passing (e₁.state.rollbackChecks { request with context }) :=
    fun r hr => succeeds_passes hstep hsucceeds hr
  obtain ⟨hpolicy, -⟩ := State.rollbackChecks_compared hp
  exact .of_refused (State.rollbackChecks_repeat hpolicy hfound hcaller hactive hkept hprint)

theorem registerPublisher_repeats {publisher : PublisherId} {boot : WorkerBootId}
    {scope : AuthorityScope} {session : SessionId}
    (h : Recognised config e (.registerPublisher publisher boot scope session))
    (hstep : e₁.step config (.registerPublisher publisher boot scope session) = some (e₁', answer))
    (hsucceeds : answer.succeeds = true) :
    Replays config e (.registerPublisher publisher boot scope session) := by
  cases h with
  | registered asks unfenced found same =>
    cases asks
    cases hstep
    refine @registerPublisher_replays config e e₁ _ _ _ _ _ ?_ unfenced found same
    exact Bool.eq_false_iff.2 (Outcome.not_rejection hsucceeds)
  | listed carries => cases carries
  | revoked asks => cases asks
  | presented tells => cases tells
  | untraced asks => cases asks

/-- Nothing recognises an operation that has no caller and registers nothing. -/
theorem Recognised.not_of (hcarries : op.context = none)
    (hregisters : ∀ publisher boot scope session,
      op ≠ .registerPublisher publisher boot scope session) : ¬ Recognised config e op := by
  intro h
  cases h with
  | listed carries =>
    rw [hcarries] at carries
    cases carries
  | revoked asks =>
    subst asks
    cases hcarries
  | registered asks => exact hregisters _ _ _ _ asks
  | presented tells =>
    obtain ⟨now, request, rfl⟩ := Op.commits_of_handedIn tells
    cases hcarries
  | untraced asks =>
    subst asks
    cases hcarries

end

section
variable {e₁ e₁' : Engine} {op₁ : Op} {frame : Frame} {session₁ session₂ : Session}
  {reading₁ reading₂ : Reading} {attempt₁ attempt₂ : UInt64}

/-- A recognised operation whose frame succeeded before is answered as a replay. -/
theorem Recognised.replays (h : Recognised config e op)
    (h₁ : frame.operation session₁ reading₁ attempt₁ = some op₁)
    (h₂ : frame.operation session₂ reading₂ attempt₂ = some op) (hid : session₂.id = session₁.id)
    (hstep : e₁.step config op₁ = some (e₁', answer)) (hsucceeds : answer.succeeds = true) :
    Replays config e op := by
  cases frame with
  | hello | helloAck | queryState | snapshotResponse | explainRequest | diffRequest | result | error
  | bye => cases h₂
  | registerPublisher message =>
    obtain ⟨message, rfl, hop⟩ := Option.map_eq_some_iff.1 h₂
    subst hop
    cases h₁
    rw [← hid] at hstep
    exact registerPublisher_repeats h hstep hsucceeds
  | fenceNotice message =>
    obtain ⟨message, rfl, hop⟩ := Option.map_eq_some_iff.1 h₂
    subst hop
    exact absurd h (Recognised.not_of rfl (by simp))
  | createPolicy message =>
    obtain ⟨message, rfl, hop⟩ := Option.map_eq_some_iff.1 h₂
    subst hop
    cases h₁
    exact createPolicy_repeats h hstep hsucceeds
  | updatePolicy message =>
    -- an update that names no generation is never compared with the table
    obtain ⟨message, rfl, hop⟩ := Option.map_eq_some_iff.1 h₂
    subst hop
    obtain ⟨-, record, -, -, hexpected⟩ := h.agreed rfl (by simp)
    cases hexpected
  | policyLifecycle message =>
    obtain ⟨message, rfl, hop⟩ := Option.map_eq_some_iff.1 h₂
    subst hop
    exact (h.agreed rfl (by simp)).2.elim
  | revokePolicy message =>
    obtain ⟨message, rfl, hop⟩ := Option.map_eq_some_iff.1 h₂
    subst hop
    cases h₁
    exact revokePolicy_repeats h hstep hsucceeds
  | upstreamNotify notifications =>
    obtain ⟨notifications, rfl, hop⟩ := Option.map_eq_some_iff.1 h₂
    subst hop
    cases h₁
    exact applyUpstream_repeats h (composeAttempt_valid ..) hstep hsucceeds
  | publishEvidence publications =>
    obtain ⟨publications, rfl, hop⟩ := Option.map_eq_some_iff.1 h₂
    subst hop
    cases h₁
    exact publishEvidence_repeats h hstep hsucceeds
  | evaluate message =>
    obtain ⟨message, rfl, hop⟩ := Option.map_eq_some_iff.1 h₂
    dsimp only at hop
    split at hop
    · subst hop
      exact (h.agreed rfl (by simp)).2.elim
    · subst hop
      obtain ⟨hauthority, hrepeats⟩ := h.agreed rfl (by simp)
      exact evaluate_repeats hauthority hrepeats
  | commitDecision ticket =>
    obtain ⟨ticket, rfl, hop⟩ := Option.map_eq_some_iff.1 h₂
    subst hop
    exact commitEvaluation_replays h
  | revalidate policy =>
    obtain ⟨policy, rfl, hop⟩ := Option.map_eq_some_iff.1 h₂
    subst hop
    exact (h.agreed rfl (by simp)).2.elim
  | rollback message =>
    obtain ⟨message, rfl, hop⟩ := Option.map_eq_some_iff.1 h₂
    subst hop
    cases h₁
    exact rollback_repeats h hstep hsucceeds
  | snapshotRequest policy =>
    obtain ⟨policy, rfl, hop⟩ := Option.map_eq_some_iff.1 h₂
    subst hop
    exact absurd h (Recognised.not_of rfl (by simp))
  | advanceEpoch reason =>
    obtain ⟨reason, rfl, hop⟩ := Option.map_eq_some_iff.1 h₂
    subst hop
    exact absurd h (Recognised.not_of rfl (by simp))

end

end

/-! ## Dispatch -/

theorem Frame.operation_live {session : Session} {reading : Reading} {attempt : UInt64}
    {frame : Frame} {op : Op} (h : frame.operation session reading attempt = some op) :
    ∀ now decoded origin, op ≠ .decodeStore now decoded origin := by
  cases frame with
  | evaluate message =>
    obtain ⟨message, -, hop⟩ := Option.map_eq_some_iff.1 h
    subst hop
    dsimp only
    split <;> simp
  | hello | helloAck | queryState | snapshotResponse | explainRequest | diffRequest | result | error
  | bye => cases h
  | _ =>
    obtain ⟨message, -, hop⟩ := Option.map_eq_some_iff.1 h
    subst hop
    simp

section
variable {config : EngineConfig} {e e' : Engine} {session : Session} {frame : Frame}
  {reading : Reading} {served : Served}

theorem serveOperation_of {α : Type} {message : α} {op : α → Op} {answer : Answer}
    (h : e.step config (op message) = some (e', answer)) :
    serveOperation config e session frame (some message) op =
      some { engine := e', session, reply := .answer answer } := by
  unfold serveOperation
  dsimp only
  rw [h]
  rfl

/-- A session that may send a frame is answered with the result of the operation the frame asks
for. -/
theorem dispatch_operates {op : Op} {result : OperationResult}
    (hmay : session.registered = true ∨ frame.open = true)
    (hformed : ∀ message, frame = .registerPublisher (some message) →
      message.scope.wellFormed = true)
    (hop : frame.operation { session with dispatched := session.dispatched + 1 } reading
      (session.dispatched + 1) = some op)
    (hstep : e.step config op = some (e', .result result)) :
    ∃ served, dispatch config e session frame reading = some served ∧
      served.reply = .answer (.result result) ∧ served.engine = e' := by
  have hgate : ¬ (!session.registered && !frame.open) = true := by
    rcases hmay with h | h <;> simp [h]
  unfold dispatch
  dsimp only
  rw [if_neg hgate]
  cases frame with
  | hello | helloAck | queryState | snapshotResponse | explainRequest | diffRequest | result | error
  | bye => cases hop
  | registerPublisher message =>
    obtain ⟨message, rfl, hasked⟩ := Option.map_eq_some_iff.1 hop
    subst hasked
    cases hstep
    refine ⟨_, rfl, ?_, ?_⟩
    · unfold handleRegisterPublisher
      simp only [hformed message rfl]
      rfl
    · unfold handleRegisterPublisher
      simp only [hformed message rfl]
      rfl
  | snapshotRequest policy =>
    obtain ⟨policy, rfl, hasked⟩ := Option.map_eq_some_iff.1 hop
    subst hasked
    obtain ⟨_, -, he⟩ := Option.map_eq_some_iff.1 hstep
    cases he
  | evaluate message =>
    obtain ⟨message, rfl, hasked⟩ := Option.map_eq_some_iff.1 hop
    subst hasked
    exact ⟨_, serveOperation_of hstep, rfl, rfl⟩
  | _ =>
    obtain ⟨message, rfl, hasked⟩ := Option.map_eq_some_iff.1 hop
    subst hasked
    exact ⟨_, serveOperation_of hstep, rfl, rfl⟩

/-- A session that is answered was allowed to send the frame. -/
theorem dispatch_may {answer : Answer} (h : dispatch config e session frame reading = some served)
    (hreply : served.reply = .answer answer) :
    (session.registered = true ∨ frame.open = true) ∧
      ∀ message, frame = .registerPublisher (some message) → message.scope.wellFormed = true := by
  unfold dispatch at h
  dsimp only at h
  split at h
  · cases h
    cases hreply
  · rename_i hgate
    constructor
    · simpa [Decidable.or_iff_not_imp_left] using hgate
    · intro message hframe
      subst hframe
      cases h
      unfold handleRegisterPublisher at hreply
      dsimp only at hreply
      split at hreply
      · cases hreply
      · rename_i hformed
        simpa using hformed

theorem dispatch_counts (h : dispatch config e session frame reading = some served) :
    served.session.id = session.id ∧
      (session.registered = true → served.session.registered = true) ∧
      served.session.dispatched = session.dispatched + 1 := by
  cases dispatch_enrols h with
  | counted same =>
    rw [same]
    exact ⟨rfl, fun hregistered => hregistered, rfl⟩
  | enrolled asks accepts proceeds checks remembers =>
    rw [remembers]
    exact ⟨rfl, fun _ => rfl, rfl⟩

end

/-! ## Sessions that send a frame again -/

def Happening.isFrame : Happening → Bool
  | .frame .. => true
  | _ => false

namespace Tenure

/-- The attempt of the next frame. -/
def attempt (t : Tenure) : MutationAttemptId :=
  composeAttempt t.session.id (t.session.dispatched + 1)

/-- The operation the frame asks for, as the next one. -/
def asks (t : Tenure) (frame : Frame) (reading : Reading) : Option Op :=
  frame.operation { t.session with dispatched := t.session.dispatched + 1 } reading
    (t.session.dispatched + 1)

/-- The frame, as the next one, is answered IDEMPOTENT and leaves the state alone. -/
def Replays (config : EngineConfig) (t : Tenure) (frame : Frame) (reading : Reading) : Prop :=
  ∃ served result, dispatch config t.engine t.session frame reading = some served ∧
    served.reply = .answer (.result result) ∧ result.outcome = .idempotent ∧
    served.engine.state = t.engine.state

section
variable {config : EngineConfig} {t t' : Tenure}

theorem step_counts {happening : Happening} (h : t.step config happening = some (t', ())) :
    t'.session.id = t.session.id ∧ (t.session.registered = true → t'.session.registered = true) ∧
      t'.session.dispatched = t.session.dispatched + if happening.isFrame then 1 else 0 := by
  cases happening with
  | other op =>
    obtain ⟨_, -, ht⟩ := Option.map_eq_some_iff.1 h
    cases ht
    simp [Happening.isFrame]
  | lost =>
    simp only [step] at h
    split at h
    · cases h
    · cases h
      simp [Happening.isFrame, lose]
  | frame frame reading =>
    simp only [step] at h
    split at h
    · cases h
    · obtain ⟨served, hserved, ht⟩ := Option.map_eq_some_iff.1 h
      obtain ⟨answered, hdispatch, hends⟩ := Option.map_eq_some_iff.1 hserved
      cases ht
      have hsession : t'.session = answered.session := by
        rw [← hends]
        split <;> rfl
      rw [hsession]
      exact dispatch_counts hdispatch

/-- The frames of a session are counted. -/
theorem trace_counts {ok : List (Runs.Call Tenure Happening Unit) → Tenure → Happening → Prop}
    {calls : List (Runs.Call Tenure Happening Unit)}
    (h : Runs.Trace (Tenure.step config) ok t calls t') :
    t'.session.id = t.session.id ∧ (t.session.registered = true → t'.session.registered = true) ∧
      t'.session.dispatched =
        t.session.dispatched + UInt64.ofNat (calls.countP (·.label.isFrame)) := by
  induction h with
  | start => simp
  | @call calls s s' happening r _ _ hstep ih =>
    obtain ⟨hid, hregistered, hcount⟩ := step_counts hstep
    obtain ⟨hid', hregistered', hcount'⟩ := ih
    refine ⟨hid.trans hid', fun h => hregistered (hregistered' h), ?_⟩
    rw [hcount, hcount', List.countP_append, UInt64.ofNat_add, UInt64.add_assoc]
    congr 1
    cases happening <;> simp [Happening.isFrame]

theorem attempt_eq_iff {ok : List (Runs.Call Tenure Happening Unit) → Tenure → Happening → Prop}
    {calls : List (Runs.Call Tenure Happening Unit)}
    (h : Runs.Trace (Tenure.step config) ok t calls t') :
    t'.attempt = t.attempt ↔ UInt64.size ∣ calls.countP (·.label.isFrame) := by
  obtain ⟨hid, -, hcount⟩ := trace_counts h
  unfold attempt
  rw [hid, composeAttempt_inj, hcount, ← UInt64.toNat_inj]
  have hsize : UInt64.size = 18446744073709551616 := rfl
  have hlt := t.session.dispatched.toNat_lt
  simp only [UInt64.toNat_add, UInt64.toNat_ofNat', UInt64.toNat_one]
  rw [hsize, Nat.dvd_iff_mod_eq_zero]
  omega

/-- A frame that succeeded is answered as a replay when its operation is recognised. -/
theorem replays_iff {frame : Frame} {reading reading' : Reading} {served : Served} {answer : Answer}
    {ok : List (Runs.Call Tenure Happening Unit) → Tenure → Happening → Prop}
    {calls : List (Runs.Call Tenure Happening Unit)}
    (hfirst : dispatch config t.engine t.session frame reading = some served)
    (hreply : served.reply = .answer answer) (hsucceeds : answer.succeeds = true)
    (hbetween : Runs.Trace (Tenure.step config) ok (t.serving frame served) calls t') :
    t'.Replays config frame reading' ↔
      ∃ op, t'.asks frame reading' = some op ∧ Recognised config t'.engine op := by
  constructor
  · intro h
    obtain ⟨again, result, hdispatch, hanswer, hidempotent, hsame⟩ := h
    cases dispatch_performs hdispatch with
    | idle _ silent => exact absurd hanswer (silent _)
    | @operated op answer' asks steps replies =>
      cases hanswer.symm.trans replies
      have hreplays : AdaptiveRouting.Replays config t'.engine op :=
        ⟨again.engine, result, steps, hidempotent, hsame⟩
      exact ⟨op, asks, hreplays.recognised (Frame.operation_live asks)⟩
  · intro h
    obtain ⟨op, hasks, hrecognised⟩ := h
    obtain ⟨hid, hregistered, -⟩ := dispatch_counts hfirst
    obtain ⟨hid', hregistered', -⟩ := trace_counts hbetween
    obtain ⟨hmay, hformed⟩ := dispatch_may hfirst hreply
    cases dispatch_performs hfirst with
    | idle _ silent => exact absurd hreply (silent _)
    | @operated op₁ answer₁ asks steps replies =>
      cases hreply.symm.trans replies
      obtain ⟨e', result, hstep, hidempotent, hsame⟩ :=
        hrecognised.replays asks hasks (hid'.trans hid) steps hsucceeds
      have hmay' : t'.session.registered = true ∨ frame.open = true :=
        hmay.imp_left fun h => hregistered' (hregistered h)
      obtain ⟨again, hdispatch, hanswer, hengine⟩ :=
        dispatch_operates hmay' hformed hasks hstep
      exact ⟨again, result, hdispatch, hanswer, hidempotent, hengine ▸ hsame⟩

end

end Tenure

/-! ## Attempts that nobody else names -/

/-- An attempt gets into the table as the attempt of an operation. -/
theorem step_unlisted {config : EngineConfig} {e e' : Engine} {op : Op} {answer : Answer}
    {attempt : MutationAttemptId} (h : e.step config op = some (e', answer))
    (hunlisted : e.state.attempts[attempt]? = none)
    (hother : ∀ context, op.context = some context → context.attempt ≠ attempt) :
    e'.state.attempts[attempt]? = none := by
  cases step_ledger h with
  | kept same => rwa [State.attempts_of_ledger same]
  | @recorded context fingerprint outcome detail carries _ valid fresh _ table =>
    rw [State.attempts_of_ledger table]
    rcases recordAttempt_other valid fresh (hother context carries) fingerprint outcome detail with
      hnone | hkept
    · exact hnone
    · rw [hkept, hunlisted]
  | cleared _ empty =>
    have hattempts : e'.state.attempts = {} := congrArg Prod.fst empty
    simp [hattempts]

namespace Tenure

/-- The others name no attempt after the session. -/
def Reserved (t : Tenure) : Happening → Prop
  | .other op => ∀ context, op.context = some context →
      ∀ n, context.attempt ≠ composeAttempt t.session.id n
  | _ => True

section
variable {config : EngineConfig} {t t' : Tenure}

/-- No frame that is still to come has its attempt in the table. -/
def Unlisted (t : Tenure) : Prop :=
  ∀ n, t.session.dispatched < n → t.engine.state.attempts[composeAttempt t.session.id n]? = none

theorem lose_attempts (t : Tenure) : t.lose.engine.state.attempts = t.engine.state.attempts := by
  apply State.attempts_of_ledger
  unfold lose sessionLost
  split
  · exact fencePublisher_ledger ..
  · rfl

theorem Unlisted.step {happening : Happening} (ht : t.Unlisted)
    (hroom : t.session.dispatched.toNat + 1 < UInt64.size) (hreserved : t.Reserved happening)
    (h : t.step config happening = some (t', ())) : t'.Unlisted := by
  obtain ⟨hid, -, hcount⟩ := step_counts h
  intro n hn
  rw [hid]
  cases happening with
  | other op =>
    obtain ⟨⟨e', answer⟩, hstep, hafter⟩ := Option.map_eq_some_iff.1 h
    cases hafter
    exact step_unlisted hstep (ht n hn) fun context hcarries => hreserved context hcarries n
  | lost =>
    simp only [Tenure.step] at h
    split at h
    · cases h
    · cases h
      rw [lose_attempts]
      exact ht n hn
  | frame frame reading =>
    simp only [Tenure.step] at h
    split at h
    · cases h
    · obtain ⟨_, hserved, hafter⟩ := Option.map_eq_some_iff.1 h
      obtain ⟨served, hdispatch, hends⟩ := Option.map_eq_some_iff.1 hserved
      cases hafter
      have hattempts : t'.engine.state.attempts = served.engine.state.attempts := by
        rw [← hends]
        split
        · rfl
        · rfl
        · exact lose_attempts _
      have hnext : (t.session.dispatched + 1).toNat = t.session.dispatched.toNat + 1 := by
        simp only [UInt64.toNat_add, UInt64.toNat_one]
        exact Nat.mod_eq_of_lt hroom
      have hlater : t.session.dispatched + 1 < n := by
        rw [hcount] at hn
        exact hn
      have hlt : t.session.dispatched < n := by
        rw [UInt64.lt_iff_toNat_lt] at hlater ⊢
        omega
      rw [hattempts]
      cases dispatch_performs hdispatch with
      | idle same =>
        rw [same]
        exact ht n hlt
      | operated asks steps =>
        refine step_unlisted steps (ht n hlt) fun context hcarries hsame => ?_
        rw [Frame.operation_context asks hcarries] at hsame
        have hnumber : t.session.dispatched + 1 = n := composeAttempt_inj.1 hsame
        exact UInt64.lt_irrefl _ (hnumber ▸ hlater)

theorem dispatched_eq {e : Engine} {id : SessionId}
    {ok : List (Runs.Call Tenure Happening Unit) → Tenure → Happening → Prop}
    {calls : List (Runs.Call Tenure Happening Unit)}
    (h : Runs.Trace (Tenure.step config) ok (start e id) calls t)
    (hroom : calls.countP (·.label.isFrame) < UInt64.size) :
    t.session.dispatched.toNat = calls.countP (·.label.isFrame) := by
  obtain ⟨-, -, hcount⟩ := trace_counts h
  rw [hcount]
  show (0 + UInt64.ofNat (calls.countP (·.label.isFrame))).toNat = _
  rw [UInt64.zero_add, UInt64.toNat_ofNat']
  exact Nat.mod_eq_of_lt hroom

/-- While the counter does not wrap and the others keep to their own names, no frame finds its own
attempt in the table: the table recognises no frame that is sent again. -/
theorem unlisted_run {e : Engine} {id : SessionId}
    {calls : List (Runs.Call Tenure Happening Unit)}
    (hstart : ∀ n, e.state.attempts[composeAttempt id n]? = none)
    (h : Runs.Trace (Tenure.step config) (fun _ t happening => t.Reserved happening) (start e id)
      calls t) (hroom : calls.countP (·.label.isFrame) + 1 < UInt64.size) :
    t.Unlisted ∧ t.engine.state.attempts[t.attempt]? = none := by
  have hunlisted : t.Unlisted := by
    induction h with
    | start => exact fun n _ => hstart n
    | @call calls s s' happening _ htrace hreserved hstep ih =>
      rw [List.countP_append] at hroom
      have hroom' : calls.countP (·.label.isFrame) + 1 < UInt64.size := by omega
      have hdispatched := dispatched_eq htrace (by omega)
      exact (ih hroom').step (hdispatched ▸ hroom') hreserved hstep
  refine ⟨hunlisted, hunlisted _ ?_⟩
  have hdispatched := dispatched_eq h (by omega)
  rw [UInt64.lt_iff_toNat_lt, UInt64.toNat_add, UInt64.toNat_one, hdispatched]
  have hmod := Nat.mod_eq_of_lt hroom
  rw [UInt64.size] at hmod
  omega

end

end Tenure

/-- A frame of a session that succeeded is answered as a replay, when it is dispatched again, exactly
when the operation it then asks for is recognised; two frames of a session carry one attempt exactly
when their distance is a multiple of the range of the counter; and until the counter wraps the table
knows the attempt of no frame, as long as the others keep to their own names. -/
theorem resent_frames (config : EngineConfig) :
    (∀ {t t' : Tenure} {frame : Frame} {reading reading' : Reading} {served : Served}
      {answer : Answer} {calls : List (Runs.Call Tenure Happening Unit)},
      dispatch config t.engine t.session frame reading = some served →
      served.reply = .answer answer → answer.succeeds = true →
      Runs.Trace (Tenure.step config) (fun _ _ _ => True) (t.serving frame served) calls t' →
      (t'.Replays config frame reading' ↔
        ∃ op, t'.asks frame reading' = some op ∧ Recognised config t'.engine op)) ∧
    (∀ {t t' : Tenure} {calls : List (Runs.Call Tenure Happening Unit)},
      Runs.Trace (Tenure.step config) (fun _ _ _ => True) t calls t' →
      (t'.attempt = t.attempt ↔ UInt64.size ∣ calls.countP (·.label.isFrame))) ∧
    (∀ {e : Engine} {id : SessionId} {t : Tenure} {calls : List (Runs.Call Tenure Happening Unit)},
      (∀ n, e.state.attempts[composeAttempt id n]? = none) →
      Runs.Trace (Tenure.step config) (fun _ t happening => t.Reserved happening) (.start e id)
        calls t →
      calls.countP (·.label.isFrame) + 1 < UInt64.size →
      t.engine.state.attempts[t.attempt]? = none) :=
  ⟨fun hfirst hreply hsucceeds hbetween => Tenure.replays_iff hfirst hreply hsucceeds hbetween,
    fun h => Tenure.attempt_eq_iff h, fun hstart h hroom => (Tenure.unlisted_run hstart h hroom).2⟩

/-! ## A registration that is recognised, and a creation that is not -/

namespace Scenario

/-- The session registers its publisher. -/
def registering : Frame := .registerPublisher (some { publisher, workerBoot := boot, scope })

/-- The session creates a policy. -/
def creating : Frame :=
  .createPolicy (some { name := name "policy", scope := (create 1).scope, semantics })

/-- The next frame of a session is answered with a result that passes a test. -/
def answered (t : Tenure) (frame : Frame) (test : Outcome → Bool) : Bool :=
  (dispatch config t.engine t.session frame reading).any fun served =>
    match served.reply with
    | .answer (.result result) => test result.outcome
    | _ => false

theorem served_of_answered {t : Tenure} {frame : Frame} {test : Outcome → Bool}
    (h : answered t frame test = true) :
    ∃ served result, dispatch config t.engine t.session frame reading = some served ∧
      served.reply = .answer (.result result) ∧ test result.outcome = true := by
  obtain ⟨served, hdispatch, htest⟩ := (Option.any_eq_true _ _).1 h
  split at htest
  · rename_i result hreply
    exact ⟨served, result, hdispatch, hreply, htest⟩
  · cases htest

/-- The tenure of a session after its next frame. -/
def next (t : Tenure) (frame : Frame) : Tenure :=
  (dispatch config t.engine t.session frame reading).elim t (t.serving frame)

theorem next_eq {t : Tenure} {frame : Frame} {served : Served}
    (h : dispatch config t.engine t.session frame reading = some served) :
    next t frame = t.serving frame served := by
  rw [next, h]
  rfl

/-- The session that registered its publisher. -/
def introduced : Tenure := next (.start engine session) registering

end Scenario

open Scenario in
/-- The registration of the session, sent again at once. -/
theorem resent_registration : introduced.Replays Scenario.config registering reading := by
  obtain ⟨served, result, hdispatch, hreply, hsuccess⟩ :=
    served_of_answered (by decide +kernel :
      answered (.start engine session) registering Outcome.isSuccess = true)
  have hsent : introduced = (Tenure.start engine session).serving registering served :=
    next_eq hdispatch
  have htrace : Runs.Trace (Tenure.step Scenario.config) (fun _ _ _ => True)
      ((Tenure.start engine session).serving registering served) [] introduced :=
    hsent ▸ .start
  obtain ⟨registration, hfound, htest⟩ :
      ∃ registration, introduced.engine.state.registrations[publisher]? = some registration ∧
        (registration.workerBoot == boot && registration.scope == scope &&
          registration.session == introduced.session.id &&
          registration.epoch == introduced.engine.state.epoch &&
          registration.authorityGeneration ==
            introduced.engine.state.authorityGeneration) = true :=
    (Option.any_eq_true _ _).1 (by decide +kernel)
  simp only [Bool.and_eq_true, beq_iff_eq] at htest
  obtain ⟨⟨⟨⟨hboot, hscope⟩, hsession⟩, hepoch⟩, hauthority⟩ := htest
  have hunfenced : introduced.engine.state.fencedBoots.contains boot = false := by
    decide +kernel
  refine ((resent_frames Scenario.config).1 hdispatch hreply hsuccess htrace).2
    ⟨_, rfl, .registered rfl (fun hmem => ?_) hfound ?_⟩
  · have hcontains := Std.ExtTreeSet.contains_iff_mem.2 hmem
    rw [hunfenced] at hcontains
    cases hcontains
  · cases registration
    dsimp only at hboot hscope hsession hepoch hauthority
    subst hboot hscope hsession hepoch hauthority
    rfl

open Scenario in
/-- The creation of a policy, sent again at once, is a new attempt. -/
theorem resent_creation_is_new :
    ¬ ∀ (config : EngineConfig) (e : Engine) (id : SessionId) (t t' : Tenure) (frame : Frame)
        (reading : Reading) (served : Served) (answer : Answer)
        (before between : List (Runs.Call Tenure Happening Unit)),
        Reachable config e → Tenure.Fresh e id →
        Runs.Trace (Tenure.step config) (fun _ _ _ => True) (.start e id) before t →
        dispatch config t.engine t.session frame reading = some served →
        served.reply = .answer answer → answer.succeeds = true →
        Runs.Trace (Tenure.step config) (fun _ _ _ => True) (t.serving frame served) between t' →
        t'.Replays config frame reading := by
  intro h
  obtain ⟨t, hheld, htest⟩ : ∃ t, held [introduces publisher boot] = some t ∧
      (answered t creating Outcome.isSuccess &&
        answered (next t creating) creating (· != .idempotent)) = true :=
    Runs.exists_run_of_runAll (by decide +kernel)
  obtain ⟨hfirst, hagain⟩ := Bool.and_eq_true_iff.1 htest
  unfold held at hheld
  obtain ⟨⟨t₁, _⟩, hstep, hends⟩ := Option.bind_eq_some_iff.1 hheld
  cases hends
  have htrace : Runs.Trace (Tenure.step Scenario.config) (fun _ _ _ => True)
      (.start engine session) ([] ++ [⟨_, _, _, _⟩]) t := .call .start trivial hstep
  obtain ⟨served, result, hdispatch, hreply, hsuccess⟩ := served_of_answered hfirst
  have hreplays := h _ _ _ t _ creating reading served _ _ [] (@reachable_after [] rfl) fresh_session
    htrace hdispatch hreply hsuccess .start
  rw [← next_eq hdispatch] at hreplays
  obtain ⟨served₁, result₁, hdispatch₁, hreply₁, hidempotent, -⟩ := hreplays
  obtain ⟨served₂, result₂, hdispatch₂, hreply₂, hnew⟩ := served_of_answered hagain
  cases hdispatch₁.symm.trans hdispatch₂
  cases hreply₁.symm.trans hreply₂
  rw [hidempotent] at hnew
  cases hnew

end AdaptiveRouting
