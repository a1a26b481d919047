import AdaptiveRouting.Lib.Framing
import AdaptiveRouting.Proof.Attempts
import AdaptiveRouting.Proof.Scenario

/-!
# What a fingerprint covers

The fingerprint of a request is the digest of a payload (`Prints.covers`): a tag and the parts of the
request that are written behind it. The bytes of two payloads agree only if the payloads do
(`Payload.bytes_inj`). So an attempt that stays in the table answers no later request as its replay
but one of the same payload: another one is answered as a conflict, or refused before the table is
read (`step_ahead`, `attempt_reuse_refused`). What a payload leaves out, it does not tell apart.
-/

namespace AdaptiveRouting

open Guard Engine Framing

/-! ## Bytes of the digest -/

/-- The little-endian bytes of a word. -/
def wordBytes (value : UInt64) : Text :=
  (List.range 8).map fun index => (value >>> (8 * index).toUInt64).toUInt8

/-- A text behind its length. -/
def stringBytes (text : Text) : Text := wordBytes text.length.toUInt64 ++ text

theorem wordBytes_length (value : UInt64) : (wordBytes value).length = 8 := by simp [wordBytes]

theorem wordBytes_inj : Function.Injective wordBytes := by
  intro a b h
  have hbyte (i : Nat) (hi : i < 8) :
      (a >>> (8 * i).toUInt64).toUInt8 = (b >>> (8 * i).toUInt64).toUInt8 := by
    have hget := congrArg (fun bytes : Text => bytes[i]?) h
    simpa [wordBytes, hi] using hget
  have hdigit (i : Nat) (hi : i < 8) :
      a.toNat / 2 ^ (8 * i) % 256 = b.toNat / 2 ^ (8 * i) % 256 := by
    have hnat := congrArg UInt8.toNat (hbyte i hi)
    have hshift : (8 * i).toUInt64.toNat = 8 * i := by
      simp only [Nat.toUInt64, UInt64.toNat_ofNat']
      omega
    have hmod : 8 * i % 64 = 8 * i := by omega
    simpa [UInt64.toNat_toUInt8, UInt64.toNat_shiftRight, Nat.shiftRight_eq_div_pow, hshift, hmod]
      using hnat
  have h0 := hdigit 0 (by omega)
  have h1 := hdigit 1 (by omega)
  have h2 := hdigit 2 (by omega)
  have h3 := hdigit 3 (by omega)
  have h4 := hdigit 4 (by omega)
  have h5 := hdigit 5 (by omega)
  have h6 := hdigit 6 (by omega)
  have h7 := hdigit 7 (by omega)
  have ha := a.toNat_lt
  have hb := b.toNat_lt
  simp only [Nat.reduceMul, Nat.reducePow, Nat.div_one] at h0 h1 h2 h3 h4 h5 h6 h7
  apply UInt64.toNat_inj.1
  omega

theorem word_delimited : Delimited (fun _ => True) wordBytes :=
  .of_length (fun a b => by simp [wordBytes_length]) wordBytes_inj

theorem byte_delimited : Delimited (fun _ => True) fun byte : UInt8 => [byte] :=
  .of_length (fun _ _ => rfl) fun _ _ h => by simpa using h

/-- The length of a text fits its length word, as that of every `std::string` does. -/
def Fits (text : Text) : Prop := text.length < UInt64.size

instance (text : Text) : Decidable (Fits text) := inferInstanceAs (Decidable (_ < _))

theorem string_delimited : Delimited Fits stringBytes := by
  have hsize : Delimited (fun n : Nat => n < UInt64.size) fun n => wordBytes n.toUInt64 := by
    intro m n hm hn r s h
    obtain ⟨hword, hrest⟩ := word_delimited trivial trivial r s h
    have hnat := congrArg UInt64.toNat hword
    simp only [Nat.toUInt64, UInt64.toNat_ofNat'] at hnat
    simp only [UInt64.size] at hm hn
    exact ⟨by omega, hrest⟩
  exact hsize.prefixed

namespace Digest

theorem writeBytes_append (g : Digest) (a b : Text) :
    (g.writeBytes a).writeBytes b = g.writeBytes (a ++ b) := by
  simp [writeBytes]

theorem writeU8_eq (g : Digest) (value : UInt8) : g.writeU8 value = g.writeBytes [value] := rfl

theorem writeU64_eq (g : Digest) (value : UInt64) : g.writeU64 value = g.writeBytes (wordBytes value) :=
  rfl

theorem writeString_eq (g : Digest) (text : Text) :
    g.writeString text = g.writeBytes (stringBytes text) :=
  writeBytes_append ..

theorem writeTag_eq (g : Digest) (tag : Text) :
    g.writeTag tag = g.writeBytes (0x1F :: stringBytes tag) := by
  rw [writeTag, writeU8_eq, writeString_eq, writeBytes_append]
  rfl

theorem foldl_writeBytes {α : Type} (f : α → Text) (values : List α) (g : Digest) :
    values.foldl (fun g a => g.writeBytes (f a)) g = g.writeBytes (values.flatMap f) := by
  induction values generalizing g with
  | nil => rfl
  | cons a rest ih => rw [List.foldl_cons, ih, writeBytes_append, List.flatMap_cons]

end Digest

/-! ## Payloads -/

/-- What is written of one publication. -/
structure EvidenceEntry where
  source : Text
  sourceGeneration : UInt64
  quality : UInt8
  path : Text
  kind : UInt8
  value : UInt64
  sequence : UInt64

def EvidenceEntry.of (p : EvidencePublication) : EvidenceEntry where
  source := p.source.text
  sourceGeneration := p.sourceGeneration.value
  quality := p.quality.code
  path := p.path.text
  kind := p.value.kind.code
  value := UInt64.ofInt p.value.value
  sequence := p.observationSequence

def EvidenceEntry.bytes (entry : EvidenceEntry) : Text :=
  stringBytes entry.source ++ (wordBytes entry.sourceGeneration ++ ([entry.quality] ++
    (stringBytes entry.path ++ ([entry.kind] ++ (wordBytes entry.value ++
      wordBytes entry.sequence)))))

/-- What the fingerprint of a request is computed from. -/
inductive Payload
  | policy (scope semantics : Text)
  | upstream (notifications : List Text)
  | evidence (entries : List EvidenceEntry)
  | commit (policy : Text) (policyGeneration evidenceGeneration : UInt64) (target detail : Text)
  | rollback (policy reason : Text)

namespace Payload

def tag : Payload → Text
  | policy .. => "policy-payload"
  | upstream .. => "upstream-batch"
  | evidence .. => "evidence-batch"
  | commit .. => "commit-decision"
  | rollback .. => "rollback"

def body : Payload → Text
  | policy scope semantics => stringBytes scope ++ stringBytes semantics
  | upstream notifications => notifications.flatMap stringBytes
  | evidence entries => entries.flatMap EvidenceEntry.bytes
  | commit id policyGeneration evidenceGeneration target detail =>
    stringBytes id ++ (wordBytes policyGeneration ++ (wordBytes evidenceGeneration ++
      (stringBytes target ++ stringBytes detail)))
  | rollback id reason => stringBytes id ++ stringBytes reason

/-- The bytes the digest reads. -/
def bytes (p : Payload) : Text := 0x1F :: (stringBytes p.tag ++ p.body)

def digest (p : Payload) : Digest := ({} : Digest).writeBytes p.bytes

def fingerprint (p : Payload) : Text := p.digest.hex

end Payload

/-! ## Payloads are told apart -/

/-- The texts of an entry fit. -/
def EvidenceEntry.Fits (entry : EvidenceEntry) : Prop :=
  AdaptiveRouting.Fits entry.source ∧ AdaptiveRouting.Fits entry.path

theorem entry_delimited : Delimited EvidenceEntry.Fits EvidenceEntry.bytes := by
  have hfields := string_delimited.append (word_delimited.append (byte_delimited.append
    (string_delimited.append (byte_delimited.append (word_delimited.append word_delimited)))))
  let fields (entry : EvidenceEntry) := (entry.source, entry.sourceGeneration, entry.quality,
    entry.path, entry.kind, entry.value, entry.sequence)
  have hinj : Function.Injective fields := by
    rintro ⟨⟩ ⟨⟩ h
    simpa [fields] using h
  exact (hfields.comap hinj).mono fun _ h => ⟨h.1, trivial, trivial, h.2, trivial, trivial, trivial⟩

namespace Payload

/-- The texts of a payload fit. -/
def Fits : Payload → Prop
  | policy scope semantics => AdaptiveRouting.Fits scope ∧ AdaptiveRouting.Fits semantics
  | upstream notifications => ∀ text ∈ notifications, AdaptiveRouting.Fits text
  | evidence entries => ∀ entry ∈ entries, entry.Fits
  | commit id _ _ target detail =>
    AdaptiveRouting.Fits id ∧ AdaptiveRouting.Fits target ∧ AdaptiveRouting.Fits detail
  | rollback id reason => AdaptiveRouting.Fits id ∧ AdaptiveRouting.Fits reason

theorem tag_fits (p : Payload) : AdaptiveRouting.Fits p.tag := by
  have hlen : p.tag.length ≤ 15 := by
    cases p <;> simp only [tag] <;> decide
  simp only [AdaptiveRouting.Fits, UInt64.size]
  omega

theorem stringBytes_ne (text : Text) : stringBytes text ≠ [] := by
  intro h
  have hlen := congrArg List.length h
  simp [stringBytes, wordBytes_length] at hlen

/-- The bytes of two payloads agree only if the payloads do. -/
theorem bytes_inj {p q : Payload} (hp : p.Fits) (hq : q.Fits) (h : p.bytes = q.bytes) : p = q := by
  have hframe : stringBytes p.tag ++ p.body = stringBytes q.tag ++ q.body := (List.cons.inj h).2
  obtain ⟨htag, hbody⟩ := string_delimited p.tag_fits q.tag_fits _ _ hframe
  have hpair := string_delimited.append string_delimited
  have hcommit := string_delimited.append (word_delimited.append (word_delimited.append hpair))
  cases p with
  | policy scope semantics =>
    cases q with
    | policy scope' semantics' =>
      have h := hpair.inj (a := (scope, semantics)) (b := (scope', semantics')) hp hq hbody
      simpa using h
    | _ => exact absurd htag (by simp only [tag]; decide)
  | upstream notifications =>
    cases q with
    | upstream notifications' =>
      rw [string_delimited.flatMap_inj stringBytes_ne hp hq hbody]
    | _ => exact absurd htag (by simp only [tag]; decide)
  | evidence entries =>
    cases q with
    | evidence entries' =>
      have hne (entry : EvidenceEntry) : entry.bytes ≠ [] := by
        simp [EvidenceEntry.bytes, stringBytes_ne]
      rw [entry_delimited.flatMap_inj hne hp hq hbody]
    | _ => exact absurd htag (by simp only [tag]; decide)
  | commit id policyGeneration evidenceGeneration target detail =>
    cases q with
    | commit id' policyGeneration' evidenceGeneration' target' detail' =>
      have h := hcommit.inj (a := (id, policyGeneration, evidenceGeneration, target, detail))
        (b := (id', policyGeneration', evidenceGeneration', target', detail'))
        ⟨hp.1, trivial, trivial, hp.2⟩ ⟨hq.1, trivial, trivial, hq.2⟩ hbody
      simpa using h
    | _ => exact absurd htag (by simp only [tag]; decide)
  | rollback id reason =>
    cases q with
    | rollback id' reason' =>
      have h := hpair.inj (a := (id, reason)) (b := (id', reason')) hp hq hbody
      simpa using h
    | _ => exact absurd htag (by simp only [tag]; decide)

end Payload

/-! ## Payloads of the requests -/

def Payload.ofTicket (ticket : EvaluationTicket) : Payload :=
  .commit ticket.dependencies.policy.text ticket.dependencies.policyGeneration.value
    ticket.dependencies.evidenceGeneration.value ticket.targetPreference.text ticket.detail

/-- What the fingerprint of an operation covers. Creating and updating cover the same. -/
inductive Covers (limits : Limits) (e : Engine) : Op → Payload → Prop
  | create {now : Ticks} {request : CreatePolicyRequest} :
      Covers limits e (.createPolicy now request)
        (.policy request.scope.render request.semantics.render)
  | update {now : Ticks} {request : UpdatePolicyRequest} :
      Covers limits e (.updatePolicy now request)
        (.policy request.update.scope.render request.update.semantics.render)
  | upstream {request : UpstreamNotifyRequest} :
      Covers limits e (.applyUpstream request) (.upstream (request.notifications.map (·.render)))
  | publish {clock : Nat → Ticks} {request : PublishEvidenceRequest} :
      Covers limits e (.publishEvidence clock request)
        (.evidence (request.publications.map EvidenceEntry.of))
  | commit {op : Op} {now : Ticks} {request : CommitDecisionRequest}
      (commits : Commits limits e op now request) : Covers limits e op (.ofTicket request.ticket)
  | rollback {now : Ticks} {request : RollbackRequest} :
      Covers limits e (.rollback now request) (.rollback request.policy.text request.reason)

section
variable {limits : Limits} {e : Engine} {op : Op} {p q : Payload}

theorem Covers.unique (hp : Covers limits e op p) (hq : Covers limits e op q) : p = q := by
  cases hp with
  | create | update | upstream | publish | rollback =>
    cases hq with
    | commit commits => cases commits
    | _ => rfl
  | commit commits =>
    cases commits with
    | commit =>
      cases hq with
      | commit commits' =>
        cases commits'
        rfl
    | evaluate begins =>
      cases hq with
      | commit commits' =>
        cases commits' with
        | evaluate begins' =>
          cases begins.symm.trans begins'
          rfl

theorem fingerprintPolicy_eq (scope : PolicyScope) (semantics : PolicySemantics) :
    fingerprintPolicy scope semantics =
      (Payload.policy scope.render semantics.render).fingerprint := by
  unfold fingerprintPolicy
  simp only [Digest.writeTag_eq, Digest.writeString_eq, Digest.writeBytes_append]
  rfl

theorem fingerprintCommit_eq (ticket : EvaluationTicket) :
    fingerprintCommit ticket = (Payload.ofTicket ticket).fingerprint := by
  unfold fingerprintCommit
  simp only [Digest.writeTag_eq, Digest.writeString_eq, Digest.writeU64_eq, Digest.writeBytes_append]
  simp only [Payload.fingerprint, Payload.digest, Payload.bytes, Payload.ofTicket, Payload.body,
    Payload.tag, List.append_assoc, List.cons_append]

theorem fingerprintRollback_eq (request : RollbackRequest) :
    fingerprintRollback request =
      (Payload.rollback request.policy.text request.reason).fingerprint := by
  unfold fingerprintRollback
  simp only [Digest.writeTag_eq, Digest.writeString_eq, Digest.writeBytes_append]
  rfl

theorem fingerprintUpstream_eq (notifications : List UpstreamNotification) :
    fingerprintUpstream notifications =
      (Payload.upstream (notifications.map (·.render))).fingerprint := by
  unfold fingerprintUpstream
  simp only [Digest.writeTag_eq, Digest.writeString_eq]
  rw [Digest.foldl_writeBytes (fun n : UpstreamNotification => stringBytes n.render),
    Digest.writeBytes_append]
  simp only [Payload.fingerprint, Payload.digest, Payload.bytes, Payload.body, Payload.tag,
    List.flatMap_map, List.cons_append]

theorem fingerprintEvidence_eq (publications : List EvidencePublication) :
    fingerprintEvidence publications =
      (Payload.evidence (publications.map EvidenceEntry.of)).fingerprint := by
  unfold fingerprintEvidence
  simp only [Digest.writeTag_eq, Digest.writeString_eq, Digest.writeU64_eq, Digest.writeU8_eq,
    Digest.writeI64, Digest.writeBytes_append]
  rw [Digest.foldl_writeBytes, Digest.writeBytes_append]
  simp only [Payload.fingerprint, Payload.digest, Payload.bytes, Payload.body, Payload.tag,
    List.flatMap_map, List.cons_append, EvidenceEntry.of, EvidenceEntry.bytes, List.append_assoc]

theorem Prints.covers {fingerprint : Text} (h : Prints limits e op fingerprint) :
    ∃ p, Covers limits e op p ∧ fingerprint = p.fingerprint := by
  cases h with
  | create => exact ⟨_, .create, fingerprintPolicy_eq ..⟩
  | update => exact ⟨_, .update, fingerprintPolicy_eq ..⟩
  | upstream => exact ⟨_, .upstream, fingerprintUpstream_eq ..⟩
  | publish => exact ⟨_, .publish, fingerprintEvidence_eq ..⟩
  | commit commits => exact ⟨_, .commit commits, fingerprintCommit_eq ..⟩
  | rollback => exact ⟨_, .rollback, fingerprintRollback_eq ..⟩

end

/-! ## Ahead of the table -/

/-- An attempt table. -/
abbrev AttemptTable := Std.ExtTreeMap MutationAttemptId AttemptRecord

namespace State

variable {s : State} {attempt : MutationAttemptId} {fingerprint : Text} {limits : Limits}

/-- The state with another table of attempts. -/
def retabled (s : State) (attempts : AttemptTable) : State := { s with attempts }

/-- The table has the attempt from a request of another fingerprint. -/
def Conflicts (s : State) (attempt : MutationAttemptId) (fingerprint : Text) : Prop :=
  attempt.valid = true ∧
    ∃ record, s.attempts[attempt]? = some record ∧ record.fingerprint ≠ fingerprint

theorem Conflicts.refuses (h : s.Conflicts attempt fingerprint) :
    ∃ answer, s.refuseReplay attempt fingerprint = .error answer ∧
      answer.outcome = .attemptConflict := by
  obtain ⟨hvalid, record, hrecord, hother⟩ := h
  refine ⟨s.makeResult .attemptConflict "attempt id reused with a different payload" default, ?_,
    rfl⟩
  unfold refuseReplay replayCheck
  rw [hvalid, hrecord]
  simp only [Bool.not_true, Bool.false_eq_true, if_false, if_neg hother]
  rfl

/-- The checks answer a conflict, or refuse the request whatever the table holds. -/
abbrev StopsAhead {α : Type} (checks : State → Except OperationResult α) (s : State) : Prop :=
  Stops (fun answer => answer.outcome = .attemptConflict) (checks s)
    fun attempts => checks (s.retabled attempts)

theorem createChecks_stops (limits : Limits) {request : CreatePolicyRequest}
    (h : s.Conflicts request.context.attempt (fingerprintPolicy request.scope request.semantics)) :
    StopsAhead (·.createChecks limits request) s := by
  obtain ⟨answer, hanswer, hconflict⟩ := h.refuses
  refine .seq (.bind (fun _ => rfl) fun _ => .bind (fun _ => rfl) fun registration => ?_)
  exact .seq (.seq (.seq (.seq (.here hanswer hconflict))))

theorem updateChecks_stops (limits : Limits) {request : UpdatePolicyRequest}
    (h : s.Conflicts request.context.attempt
      (fingerprintPolicy request.update.scope request.update.semantics)) :
    StopsAhead (·.updateChecks limits request) s := by
  obtain ⟨answer, hanswer, hconflict⟩ := h.refuses
  refine .seq (.seq (.bind (fun _ => rfl) fun _ => .bind (fun _ => rfl) fun record => ?_))
  refine .bind (fun _ => rfl) fun registration => ?_
  exact .seq (.seq (.seq (.seq (.here hanswer hconflict))))

theorem upstreamChecks_stops (limits : Limits) {request : UpstreamNotifyRequest}
    (h : s.Conflicts request.context.attempt (fingerprintUpstream request.notifications)) :
    StopsAhead (·.upstreamChecks limits request) s := by
  obtain ⟨answer, hanswer, hconflict⟩ := h.refuses
  exact .seq (.seq (.here hanswer hconflict))

theorem publishChecks_stops (limits : Limits) {request : PublishEvidenceRequest}
    (h : s.Conflicts request.context.attempt (fingerprintEvidence request.publications)) :
    StopsAhead (·.publishChecks limits request) s := by
  obtain ⟨answer, hanswer, hconflict⟩ := h.refuses
  exact .seq (.seq (.bind (fun _ => rfl) fun _ => .here hanswer hconflict))

theorem commitChecks_stops {request : CommitDecisionRequest}
    (h : s.Conflicts request.context.attempt (fingerprintCommit request.ticket)) :
    StopsAhead (·.commitChecks request) s := by
  obtain ⟨answer, hanswer, hconflict⟩ := h.refuses
  refine .seq (.seq (.bind (fun _ => rfl) fun _ => .bind (fun _ => rfl) fun record => ?_))
  refine .seq (.seq (.seq (.seq (.seq (.seq (.bind (fun _ => rfl) fun _ => ?_))))))
  exact .here hanswer hconflict

theorem rollbackChecks_stops {request : RollbackRequest}
    (h : s.Conflicts request.context.attempt (fingerprintRollback request)) :
    StopsAhead (·.rollbackChecks request) s := by
  obtain ⟨answer, hanswer, hconflict⟩ := h.refuses
  refine .seq (.bind (fun _ => rfl) fun record => .bind (fun _ => rfl) fun _ => ?_)
  exact .seq (.here hanswer hconflict)

end State

/-- The engine with another table of attempts. -/
def Engine.retabled (e : Engine) (attempts : AttemptTable) : Engine :=
  { e with state := e.state.retabled attempts }

/-- The operation is refused ahead of the table: whatever it holds, the answer is this one. -/
def RefusedAhead (config : EngineConfig) (e : Engine) (op : Op) (answer : Answer) : Prop :=
  ∀ attempts, ∃ e', (e.retabled attempts).step config op = some (e', answer)

section
variable {limits : Limits} {e e' : Engine} {now : Ticks}

/-- Phase one does not read the table. -/
theorem beginEvaluation_retabled {request : EvaluateRequest} {ticket : EvaluationTicket}
    (h : beginEvaluation limits e now request = some (e', ticket)) (attempts : AttemptTable) :
    beginEvaluation limits (e.retabled attempts) now request = some (e'.retabled attempts, ticket) := by
  have hchecks : beginChecks limits (e.retabled attempts) request = beginChecks limits e request :=
    rfl
  unfold beginEvaluation at h ⊢
  rw [hchecks]
  cases hbegin : beginChecks limits e request with
  | error refusal =>
    rw [hbegin] at h
    cases h
    rfl
  | ok record =>
    rw [hbegin] at h
    dsimp only at h ⊢
    obtain ⟨⟨evaluation, ids₁⟩, heval, h⟩ := Option.bind_eq_some_iff.1 h
    obtain ⟨⟨evidence, ids₂⟩, hevsnap, h⟩ := Option.bind_eq_some_iff.1 h
    obtain ⟨⟨decision, ids₃⟩, hdecision, h⟩ := Option.bind_eq_some_iff.1 h
    cases h
    refine Option.bind_eq_some_iff.2 ⟨_, heval, Option.bind_eq_some_iff.2 ⟨_, hevsnap, ?_⟩⟩
    exact Option.bind_eq_some_iff.2 ⟨_, hdecision, rfl⟩

end

section
variable {config : EngineConfig} {e e' : Engine} {op : Op} {answer : Answer}

/-- An operation that answers what its checks refuse with. -/
theorem refused_ahead {α : Type} {checks : State → Except OperationResult α}
    (hstops : State.StopsAhead checks e.state)
    (hrefuses : ∀ (e : Engine) (refusal : OperationResult), checks e.state = .error refusal →
      ∃ e', e.step config op = some (e', .result refusal)) (h : e.step config op = some (e', answer)) :
    answer.outcome = some .attemptConflict ∨ RefusedAhead config e op answer := by
  obtain ⟨refusal, hrefusal, hstops⟩ := hstops
  obtain ⟨e₁, hstep⟩ := hrefuses e refusal hrefusal
  cases h.symm.trans hstep
  exact hstops.imp (congrArg some) fun hahead attempts =>
    hrefuses (e.retabled attempts) refusal (hahead attempts)

theorem commitEvaluation_refused {limits : Limits} {now : Ticks} {request : CommitDecisionRequest}
    {refusal : OperationResult} (h : e.state.commitChecks request = .error refusal) :
    commitEvaluation limits e now request = some (e.settled, refusal) := by
  unfold commitEvaluation commitTicket
  dsimp only
  rw [h]
  rfl

/-- Both phases: phase one does not read the table, and phase two stops at it. -/
theorem evaluate_ahead {begun now : Ticks} {request : EvaluateRequest} {result : OperationResult}
    (h : evaluate config.limits e begun now request = some (e', result))
    (hconflicts : ∀ e₁ ticket, beginEvaluation config.limits e begun request = some (e₁, ticket) →
      e₁.state.Conflicts request.context.attempt (fingerprintCommit ticket)) :
    result.outcome = .attemptConflict ∨ ∀ attempts, ∃ e',
      evaluate config.limits (e.retabled attempts) begun now request = some (e', result) := by
  obtain ⟨⟨e₁, ticket⟩, hbegins, h⟩ := Option.bind_eq_some_iff.1 h
  have hretabled := fun attempts => beginEvaluation_retabled hbegins attempts
  unfold evaluate
  dsimp only at h
  split at h
  · rename_i hrejected
    cases h
    exact .inr fun attempts =>
      ⟨_, Option.bind_eq_some_iff.2 ⟨_, hretabled attempts, if_pos hrejected⟩⟩
  · rename_i haccepted
    split at h
    · rename_i hdeferred
      refine .inr fun attempts => ?_
      split at h
      · rename_i hlifecycle
        cases h
        exact ⟨_, Option.bind_eq_some_iff.2 ⟨_, hretabled attempts, (if_neg haccepted).trans
          ((if_pos hdeferred).trans (if_pos hlifecycle))⟩⟩
      · rename_i hlifecycle
        cases h
        exact ⟨_, Option.bind_eq_some_iff.2 ⟨_, hretabled attempts, (if_neg haccepted).trans
          ((if_pos hdeferred).trans (if_neg hlifecycle))⟩⟩
    · rename_i hcommits
      have hconflict : e₁.state.Conflicts request.context.attempt (fingerprintCommit ticket) :=
        hconflicts e₁ ticket hbegins
      obtain ⟨refusal, hrefusal, hstops⟩ :=
        @State.commitChecks_stops e₁.state { ticket, context := request.context } hconflict
      cases h.symm.trans (commitEvaluation_refused hrefusal)
      refine hstops.imp id fun hahead attempts =>
        ⟨(e₁.retabled attempts).settled, Option.bind_eq_some_iff.2 ⟨_, hretabled attempts, ?_⟩⟩
      exact (if_neg haccepted).trans
        ((if_neg hcommits).trans (commitEvaluation_refused (hahead attempts)))

/-- An operation whose attempt is in the table from another payload. -/
theorem step_ahead {context : MutationContext} (hretries : op.retries = true)
    (hcarries : op.context = some context)
    (hconflicts : ∀ fingerprint, Prints config.limits e op fingerprint →
      e.state.Conflicts context.attempt fingerprint)
    (h : e.step config op = some (e', answer)) :
    answer.outcome = some .attemptConflict ∨ RefusedAhead config e op answer := by
  cases op with
  | createPolicy now request =>
    cases hcarries
    refine refused_ahead (State.createChecks_stops config.limits (hconflicts _ .create))
      (fun e refusal hrefusal => ⟨e, ?_⟩) h
    simp only [step, createPolicy, hrefusal]
    rfl
  | updatePolicy now request =>
    cases hcarries
    refine refused_ahead (State.updateChecks_stops config.limits (hconflicts _ .update))
      (fun e refusal hrefusal => ⟨e, ?_⟩) h
    simp only [step, State.updatePolicy, hrefusal]
    rfl
  | applyUpstream request =>
    cases hcarries
    refine refused_ahead (State.upstreamChecks_stops config.limits (hconflicts _ .upstream))
      (fun e refusal hrefusal => ⟨e, ?_⟩) h
    simp only [step, State.applyUpstream, hrefusal]
    rfl
  | publishEvidence clock request =>
    cases hcarries
    refine refused_ahead (State.publishChecks_stops config.limits (hconflicts _ .publish))
      (fun e refusal hrefusal => ⟨e, ?_⟩) h
    simp only [step, State.publishEvidence, hrefusal]
    rfl
  | commitEvaluation now request =>
    cases hcarries
    refine refused_ahead (State.commitChecks_stops (hconflicts _ (.commit .commit)))
      (fun e refusal hrefusal => ⟨e.settled, ?_⟩) h
    simp only [step, commitEvaluation_refused hrefusal]
    rfl
  | rollback now request =>
    cases hcarries
    refine refused_ahead (State.rollbackChecks_stops (hconflicts _ .rollback))
      (fun e refusal hrefusal => ⟨e, ?_⟩) h
    simp only [step, rollback, hrefusal]
    rfl
  | evaluate begun now request =>
    cases hcarries
    obtain ⟨⟨e₁, result⟩, hevaluate, he⟩ := Option.map_eq_some_iff.1 h
    cases he
    have hsame (e₁ : Engine) (ticket : EvaluationTicket)
        (hbegins : beginEvaluation config.limits e begun request = some (e₁, ticket)) :
        e₁.state.Conflicts request.context.attempt (fingerprintCommit ticket) := by
      rw [(beginEvaluation_cases hbegins).1]
      exact hconflicts _ (@Prints.commit config.limits e _ now { ticket, context := request.context }
        (.evaluate hbegins))
    refine (evaluate_ahead hevaluate hsame).imp (congrArg some) fun hahead attempts => ?_
    obtain ⟨e₂, h₂⟩ := hahead attempts
    exact ⟨e₂, Option.map_eq_some_iff.2 ⟨_, h₂, rfl⟩⟩
  | _ => cases hretries

end

/-! ## Attempts used twice -/

/-- Two payloads whose texts fit, and that the digest tells apart if their bytes differ. -/
structure ToldApart (p q : Payload) : Prop where
  left : p.Fits
  right : q.Fits
  digest : p.fingerprint = q.fingerprint → p.bytes = q.bytes

theorem ToldApart.eq {p q : Payload} (h : ToldApart p q) (hsame : p.fingerprint = q.fingerprint) :
    p = q :=
  Payload.bytes_inj h.left h.right (h.digest hsame)

section
variable {config : EngineConfig} {e₀ e₁ e₂ e₃ : Engine} {first second : Op} {a₁ a₂ : Answer}
  {c₁ c₂ : MutationContext}

/-- The table has an attempt that was new under the payload of the request that brought it. -/
theorem recorded_payload (hfirst : e₀.step config first = some (e₁, a₁))
    (hcarries : first.context = some c₁) (hfresh : e₀.state.attempts[c₁.attempt]? = none)
    (hrun : RunUnder config (Retaining c₁.attempt) e₁ e₂) (hretained : Retains c₁.attempt e₂.state) :
    c₁.attempt.valid = true ∧ ∃ p record, Covers config.limits e₀ first p ∧
      e₂.state.attempts[c₁.attempt]? = some record ∧ record.fingerprint = p.fingerprint := by
  have hstart : Retains c₁.attempt e₁.state := hrun.front (fun _ _ h => h) hretained
  cases step_ledger hfirst with
  | kept same answers =>
    rw [Retains, State.attempts_of_ledger same, hfresh] at hstart
    cases hstart
  | recorded carries prints valid fresh answers table =>
    cases hcarries.symm.trans carries
    obtain ⟨p, hcovers, rfl⟩ := prints.covers
    have hattempts := State.attempts_of_ledger table
    unfold Retains at hstart
    rw [hattempts] at hstart
    have hkept := recordAttempt_kept valid fresh hstart
    rw [← hattempts] at hkept
    exact ⟨valid, p, _, hcovers, retained_run hkept hrun hretained, rfl⟩
  | cleared governs empty =>
    rw [Op.governs_of_context hcarries] at governs
    cases governs

/-- A request under an attempt the table still has from another one. The table answers it as a replay
exactly when the two cover the same payload, and a request that asks the table and covers another
payload is refused: for the conflict, or ahead of the table. -/
theorem attempt_reuse_refused (hfirst : e₀.step config first = some (e₁, a₁))
    (hcarries₁ : first.context = some c₁) (hfresh : e₀.state.attempts[c₁.attempt]? = none)
    (hrun : RunUnder config (Retaining c₁.attempt) e₁ e₂) (hretained : Retains c₁.attempt e₂.state)
    (hsecond : e₂.step config second = some (e₃, a₂)) (hcarries₂ : second.context = some c₂)
    (hsame : c₂.attempt = c₁.attempt)
    (hdigest : ∀ p q, Covers config.limits e₀ first p → Covers config.limits e₂ second q →
      ToldApart p q) :
    (∀ q, Covers config.limits e₂ second q →
      ((e₂.state.replayCheck c₂.attempt q.fingerprint).map (·.outcome) = some .idempotent ↔
        Covers config.limits e₀ first q)) ∧
    (second.retries = true → (∀ outcome, second.handedIn = some outcome → outcome.isRejection = true) →
      (∀ q, Covers config.limits e₂ second q → ¬ Covers config.limits e₀ first q) →
      a₂.succeeds = false ∧ (a₂.outcome = some .attemptConflict ∨ RefusedAhead config e₂ second a₂) ∧
        e₃.state.ledger = e₂.state.ledger) := by
  obtain ⟨hvalid, p, record, hcovers, hrecord, hprint⟩ :=
    recorded_payload hfirst hcarries₁ hfresh hrun hretained
  refine ⟨fun q hq => ?_, fun hretries hhanded hother => ?_⟩
  · have hcheck : (e₂.state.replayCheck c₂.attempt q.fingerprint).map (·.outcome) =
        some (if p.fingerprint = q.fingerprint then .idempotent else .attemptConflict) := by
      unfold State.replayCheck
      rw [hsame, hvalid, hrecord]
      simp only [Bool.not_true, Bool.false_eq_true, if_false, hprint]
      split <;> simp
    rw [hcheck]
    constructor
    · intro h
      split at h
      · rename_i hfingerprint
        exact (hdigest p q hcovers hq).eq hfingerprint ▸ hcovers
      · cases h
    · intro hfirst
      rw [if_pos (by rw [hcovers.unique hfirst])]
  · have hconflicts (fingerprint : Text) (hprints : Prints config.limits e₂ second fingerprint) :
        e₂.state.Conflicts c₂.attempt fingerprint := by
      obtain ⟨q, hq, rfl⟩ := hprints.covers
      rw [hsame]
      refine ⟨hvalid, record, hrecord, fun hequal => ?_⟩
      exact hother q hq ((hdigest p q hcovers hq).eq (hprint.symm.trans hequal) ▸ hcovers)
    have hahead := step_ahead hretries hcarries₂ hconflicts hsecond
    cases step_ledger hsecond with
    | kept same answers =>
      refine ⟨?_, hahead, same⟩
      cases answers with
      | refused rejects => exact rejects
      | replayed carries prints valid found idempotent same =>
        cases hcarries₂.symm.trans carries
        obtain ⟨-, held, hheld, hother⟩ := hconflicts _ prints
        cases hheld.symm.trans found
        exact absurd rfl hother
      | handedIn rejected answers same =>
        simpa [Answer.succeeds, answers, Outcome.isRejection] using hhanded _ rejected
      | unretried retries =>
        rw [hretries] at retries
        cases retries
    | recorded carries prints valid fresh answers table =>
      cases hcarries₂.symm.trans carries
      rw [hsame, hrecord] at fresh
      cases fresh
    | cleared governs empty =>
      rw [Op.governs_of_context hcarries₂] at governs
      cases governs

end

/-! ## Attempts of a deployment used twice -/

namespace Scenario

/-- The creation of a policy of another name under the same attempt. -/
def createRenamed : CreatePolicyRequest := { create 1 with name := name "other" }

end Scenario

open Scenario in
/-- A batch under the attempt of a creation is refused. -/
theorem batch_under_creation_refused :
    ∃ e answer, (after [register, .createPolicy 0 (create 1)]).step config
        (notify (declare left) "create") = some (e, answer) ∧ answer.succeeds = false := by
  obtain ⟨a₁, hfirst⟩ := step_after [register] (.createPolicy 0 (create 1)) (by decide +kernel)
  obtain ⟨a₂, hsecond⟩ := step_after [register, .createPolicy 0 (create 1)]
    (notify (declare left) "create") (by decide +kernel)
  have hdigest : ∀ p q, Covers config.limits (after [register]) (.createPolicy 0 (create 1)) p →
      Covers config.limits (after [register, .createPolicy 0 (create 1)])
        (notify (declare left) "create") q → ToldApart p q := by
    intro p q hp hq
    rw [hp.unique .create, hq.unique .upstream]
    refine ⟨⟨by decide +kernel, by decide +kernel⟩, ?_, fun h => absurd h (by decide +kernel)⟩
    show ∀ text ∈ [(declare left).render], Fits text
    decide +kernel
  refine ⟨_, a₂, hsecond, ?_⟩
  refine ((attempt_reuse_refused hfirst rfl (by decide +kernel) (.refl _) (by decide +kernel) hsecond
    rfl rfl hdigest).2 rfl nofun fun q hq hfirst => ?_).1
  rw [hq.unique .upstream] at hfirst
  cases hfirst

open Scenario in
/-- The creation of another policy under the attempt of a creation is answered as its replay. -/
theorem renamed_creation_replays :
    Engine.Reachable config (after [register, .createPolicy 0 (create 1)]) ∧
      createRenamed.context = (create 1).context ∧ createRenamed.name ≠ (create 1).name ∧
      Retains (create 1).context.attempt (after [register, .createPolicy 0 (create 1)]).state ∧
      ∃ e result, (after [register, .createPolicy 0 (create 1)]).step config
          (.createPolicy 1 createRenamed) = some (e, .result result) ∧
        result.outcome = .idempotent := by
  obtain ⟨result, hstep, houtcome⟩ := step_result
    (by decide +kernel : returns ([register, .createPolicy 0 (create 1)] ++
      [.createPolicy 1 createRenamed]) = true)
    (by decide +kernel : answers [register, .createPolicy 0 (create 1)]
      (.createPolicy 1 createRenamed) (fun answer => answer.outcome == some .idempotent) = true)
  exact ⟨reachable_after (by decide +kernel), rfl, by decide +kernel, by decide +kernel, _, result,
    hstep, houtcome⟩

end AdaptiveRouting
