import AdaptiveRouting.Proof.Acknowledge
import AdaptiveRouting.Proof.Minting
import AdaptiveRouting.Proof.Scenario
import AdaptiveRouting.Proof.Ticket

/-!
# Outstanding evaluations

A docket is an engine with the tickets it issued whose commit is still to come. Every commit settles
one evaluation, whatever ticket it presents, and an evaluation stays open when nobody gets its ticket.
So the count is exact as long as commits present open tickets and issued tickets are received
(`Docket.Balanced`), and the first call that is not balanced makes it wrong
(`outstanding_evaluations_exact`).
-/

namespace AdaptiveRouting

open Guard

/-! ## Phase one and phase two -/

section
variable {limits : Limits} {e e' : Engine} {now : Ticks}

/-- A refused evaluation read no dependency. -/
theorem beginChecks_blank (limits : Limits) (e : Engine) (request : EvaluateRequest) :
    Refuses (fun ticket => ticket.lifecycle = .rejected ∧ ticket.dependencies.policy.valid = false)
      (beginChecks limits e request) := by
  unfold beginChecks
  refine .bind (.guard ⟨rfl, rfl⟩) fun _ => .bind (.guard ⟨rfl, rfl⟩) fun _ => ?_
  refine .bind (.found ⟨rfl, rfl⟩) fun record => ?_
  refine .bind (.mapError (e.state.checkCaller_rejects _ _ _) fun _ _ => ⟨rfl, rfl⟩) fun _ => ?_
  refine .bind (.guard ⟨rfl, rfl⟩) fun _ => ?_
  exact .bind (.guard ⟨rfl, rfl⟩) fun _ => .bind (.guard ⟨rfl, rfl⟩) fun _ => .ok _

/-- What `begin_evaluation` does: nothing, or it opens an evaluation under a new identity. -/
inductive Begins (limits : Limits) (e : Engine) (request : EvaluateRequest) (e' : Engine)
    (ticket : EvaluationTicket) : Prop
  | refused (refuses : (beginChecks limits e request).isOk = false)
      (lifecycle : ticket.lifecycle = .rejected)
      (blank : ticket.dependencies.policy.valid = false) (same : e' = e)
  | issued (accepts : (beginChecks limits e request).isOk = true)
      (lifecycle : ticket.lifecycle ≠ .rejected)
      (room : e.outstanding < limits.maxSimultaneousEvaluations)
      (counted : e'.outstanding = e.outstanding + 1)
      (minted : ticket.decision.text = e.ids.compose .decision e'.ids.counter)
      (moved : e'.ids.counter = e.ids.counter + 1 + 1 + 1)

theorem beginEvaluation_begins {request : EvaluateRequest} {ticket : EvaluationTicket}
    (h : beginEvaluation limits e now request = some (e', ticket)) :
    Begins limits e request e' ticket := by
  unfold beginEvaluation at h
  cases hchecks : beginChecks limits e request with
  | error refusal =>
    rw [hchecks] at h
    cases h
    obtain ⟨hlifecycle, hblank⟩ := beginChecks_blank limits e request _ hchecks
    exact .refused (by rw [hchecks]; rfl) hlifecycle hblank rfl
  | ok record =>
    rw [hchecks] at h
    obtain ⟨⟨evaluation, ids₁⟩, hmint₁, h⟩ := Option.bind_eq_some_iff.1 h
    obtain ⟨⟨evidence, ids₂⟩, hmint₂, h⟩ := Option.bind_eq_some_iff.1 h
    obtain ⟨⟨decision, ids₃⟩, hmint₃, h⟩ := Option.bind_eq_some_iff.1 h
    cases h
    have hids₁ := (IdFactory.mint_eq hmint₁).2
    have hids₂ := (IdFactory.mint_eq hmint₂).2
    obtain ⟨htext, hids₃⟩ := IdFactory.mint_eq hmint₃
    subst hids₁ hids₂ hids₃
    have hissues := EvaluationInputs.evaluate_issues (e.state.copyInputs now evidence record)
      (e.state.buildDependencies now record evaluation)
    refine .issued (by rw [hchecks]; rfl) ?_ ?_ rfl htext rfl
    · rcases hissues.verdict with heligible | ⟨hsuppressed, -⟩
      · simp [heligible]
      · simp [hsuppressed]
    · have hroom := hchecks
      unfold beginChecks at hroom
      simpa using (seq_ok (seq_ok hroom).2).1

theorem commitTicket_outstanding {request : CommitDecisionRequest} {result : OperationResult}
    (h : commitTicket limits e now request = some (e', result)) :
    e'.outstanding = e.outstanding := by
  unfold commitTicket at h
  dsimp only at h
  split at h
  · cases h
    rfl
  · split at h
    · obtain ⟨_, -, h⟩ := Option.bind_eq_some_iff.1 h
      cases h
      rfl
    · split at h
      · cases h
        rfl
      · split at h
        · cases h
          rfl
        · obtain ⟨_, -, h⟩ := Option.bind_eq_some_iff.1 h
          obtain ⟨_, -, h⟩ := Option.bind_eq_some_iff.1 h
          cases h
          rfl

/-- A commit settles one evaluation, if any is open. -/
theorem commitEvaluation_settles {request : CommitDecisionRequest} {result : OperationResult}
    (h : commitEvaluation limits e now request = some (e', result)) :
    e'.outstanding.toNat = e.outstanding.toNat - 1 := by
  obtain ⟨⟨e₁, _⟩, hcommit, he⟩ := Option.map_eq_some_iff.1 h
  cases he
  rw [← commitTicket_outstanding hcommit]
  unfold Engine.settled
  split
  · rename_i hopen
    have hpositive : 1 ≤ e₁.outstanding := by
      rw [UInt64.le_iff_toNat_le]
      have hne : e₁.outstanding.toNat ≠ 0 := fun hzero => hopen (UInt64.toNat_inj.1 hzero)
      simp only [UInt64.toNat_one]
      omega
    exact UInt64.toNat_sub_of_le _ _ hpositive
  · rename_i hopen
    simp [Decidable.not_not.1 hopen]

theorem opened_toNat {bound : UInt64} (hroom : e.outstanding < bound)
    (hcounted : e'.outstanding = e.outstanding + 1) :
    e'.outstanding.toNat = e.outstanding.toNat + 1 ∧ e'.outstanding ≤ bound := by
  have hlt := UInt64.lt_iff_toNat_lt.1 hroom
  have hbound := bound.toNat_lt
  have hnat : e'.outstanding.toNat = e.outstanding.toNat + 1 := by
    rw [hcounted, UInt64.toNat_add, UInt64.toNat_one]
    omega
  refine ⟨hnat, UInt64.le_iff_toNat_le.2 ?_⟩
  omega

/-- Both phases in one call leave the count alone, unless the second is deferred. -/
theorem evaluate_counts {begun : Ticks} {request : EvaluateRequest} {result : OperationResult}
    (h : evaluate limits e begun now request = some (e', result)) :
    (request.deferCommit = true → (beginChecks limits e request).isOk = false) ∧
        e'.outstanding = e.outstanding ∨
      (request.deferCommit = true ∧ (beginChecks limits e request).isOk = true) ∧
        e.outstanding < limits.maxSimultaneousEvaluations ∧ e'.outstanding = e.outstanding + 1 := by
  unfold evaluate at h
  obtain ⟨⟨e₁, ticket⟩, hbegin, h⟩ := Option.bind_eq_some_iff.1 h
  dsimp only at h
  cases beginEvaluation_begins hbegin with
  | refused refuses lifecycle blank same =>
    rw [if_pos ⟨lifecycle, blank⟩] at h
    cases h
    exact .inl ⟨fun _ => refuses, congrArg Engine.outstanding same⟩
  | issued accepts lifecycle room counted =>
    rw [if_neg fun hrefused => lifecycle hrefused.1] at h
    split at h
    · rename_i hdefer
      cases h
      exact .inr ⟨⟨hdefer, accepts⟩, room, counted⟩
    · rename_i hdefer
      refine .inl ⟨fun hdeferred => absurd hdeferred hdefer, UInt64.toNat_inj.1 ?_⟩
      rw [commitEvaluation_settles h, (opened_toNat room counted).1, Nat.add_sub_cancel]

end

/-! ## Steps -/

/-- The operations that begin or commit an evaluation. -/
def Op.evaluates : Op → Bool
  | .beginEvaluation .. | .commitEvaluation .. | .evaluate .. => true
  | _ => false

/-- The ticket a call commits. -/
def Op.presented : Op → Option EvaluationTicket
  | .commitEvaluation _ request => some request.ticket
  | _ => none

/-- The ticket an answer issues; a refused evaluation has none. -/
def Answer.issued : Answer → Option EvaluationTicket
  | .ticket issue => if issue.lifecycle = .rejected then none else some issue
  | _ => none

theorem step_outstanding {config : EngineConfig} {e e' : Engine} {op : Op} {answer : Answer}
    (h : e.step config op = some (e', answer)) (hop : op.evaluates = false) :
    e'.outstanding = e.outstanding ∧ op.presented = none ∧ answer.issued = none := by
  cases op with
  | registerPublisher | fencePublisher | advanceEpoch | updatePolicy | transitionPolicy | revokePolicy
  | applyUpstream | publishEvidence | revalidate | decodeStore =>
    cases h
    exact ⟨rfl, rfl, rfl⟩
  | createPolicy now request =>
    obtain ⟨⟨e₁, result⟩, hcreate, he⟩ := Option.map_eq_some_iff.1 h
    cases he
    refine ⟨?_, rfl, rfl⟩
    unfold createPolicy at hcreate
    dsimp only at hcreate
    split at hcreate
    · cases hcreate
      rfl
    · split at hcreate
      · cases hcreate
        rfl
      · split at hcreate
        · cases hcreate
          rfl
        · obtain ⟨_, -, hcreate⟩ := Option.bind_eq_some_iff.1 hcreate
          cases hcreate
          rfl
  | rollback now request =>
    obtain ⟨⟨e₁, result⟩, hrollback, he⟩ := Option.map_eq_some_iff.1 h
    cases he
    refine ⟨?_, rfl, rfl⟩
    unfold rollback at hrollback
    dsimp only at hrollback
    split at hrollback
    · cases hrollback
      rfl
    · split at hrollback
      · cases hrollback
        rfl
      · obtain ⟨_, -, hrollback⟩ := Option.bind_eq_some_iff.1 hrollback
        obtain ⟨_, -, hrollback⟩ := Option.bind_eq_some_iff.1 hrollback
        cases hrollback
        rfl
  | snapshot now policy =>
    obtain ⟨⟨e₁, view⟩, hview, he⟩ := Option.map_eq_some_iff.1 h
    cases he
    refine ⟨?_, rfl, rfl⟩
    unfold snapshot at hview
    split at hview
    · cases hview
      rfl
    · obtain ⟨_, -, hview⟩ := Option.bind_eq_some_iff.1 hview
      obtain ⟨_, -, hview⟩ := Option.bind_eq_some_iff.1 hview
      cases hview
      rfl
  | beginEvaluation | commitEvaluation | evaluate => cases hop

/-! ## Dockets -/

/-- An engine, with the tickets it issued whose first commit has not happened. Nothing but the
statements reads them. -/
structure Docket where
  engine : Engine
  pending : List EvaluationTicket := []

namespace Docket

/-- An operation, and whether its caller receives what it returns. The coordinator reports a deferred
evaluation without its ticket. -/
structure Call where
  op : Op
  hears : Bool := true

def settle (pending : List EvaluationTicket) : Option EvaluationTicket → List EvaluationTicket
  | some ticket => pending.erase ticket
  | none => pending

def step (config : EngineConfig) (d : Docket) (call : Call) : Option (Docket × Answer) :=
  (d.engine.step config call.op).map fun after =>
    ({ engine := after.1
       pending := settle d.pending call.op.presented ++
         if call.hears then after.2.issued.toList else [] }, after.2)

/-- The count is the number of open tickets. -/
def Tallies (d : Docket) : Prop := d.engine.outstanding.toNat = d.pending.length

/-- A commit presents an open ticket or finds none open, and an evaluation is begun for a caller who
receives its ticket. -/
def Balanced (limits : Limits) (d : Docket) (call : Call) : Prop :=
  match call.op with
  | .commitEvaluation _ request => request.ticket ∈ d.pending ∨ d.pending = []
  | .beginEvaluation _ request =>
    (beginChecks limits d.engine request).isOk = true → call.hears = true
  | .evaluate _ _ request =>
    request.deferCommit = true → (beginChecks limits d.engine request).isOk = false
  | _ => True

section
variable {config : EngineConfig} {d d' : Docket} {call : Call} {answer : Answer}

/-- From an exact count the next one is exact exactly when the call is balanced. -/
theorem Tallies.step_iff (hd : d.Tallies) (h : d.step config call = some (d', answer)) :
    d'.Tallies ↔ d.Balanced config.limits call := by
  obtain ⟨⟨e', reply⟩, hstep, heq⟩ := Option.map_eq_some_iff.1 h
  cases heq
  unfold Tallies at hd ⊢
  by_cases hevaluates : call.op.evaluates = true
  · obtain ⟨op, hears⟩ := call
    cases op with
    | beginEvaluation now request =>
      obtain ⟨⟨e₁, ticket⟩, hbegin, he⟩ := Option.map_eq_some_iff.1 hstep
      cases he
      dsimp only [Balanced, Op.presented, settle, Answer.issued]
      cases beginEvaluation_begins hbegin with
      | refused refuses lifecycle blank same =>
        simp [refuses, lifecycle, same, hd]
      | issued accepts lifecycle room counted =>
        have hcount := (opened_toNat room counted).1
        cases hears <;> simp [accepts, lifecycle, hcount, hd]
    | commitEvaluation now request =>
      obtain ⟨⟨e₁, result⟩, hcommit, he⟩ := Option.map_eq_some_iff.1 hstep
      cases he
      have hcount := commitEvaluation_settles hcommit
      dsimp only [Balanced, Op.presented, settle, Answer.issued]
      rw [Option.toList_none, ite_self, List.append_nil]
      change e₁.outstanding.toNat = _ ↔ _
      rw [hcount, hd]
      by_cases hmem : request.ticket ∈ d.pending
      · simp [hmem, List.length_erase_of_mem]
      · rw [List.erase_of_not_mem hmem]
        simp only [hmem, false_or, ← List.length_eq_zero_iff]
        omega
    | evaluate begun now request =>
      obtain ⟨⟨e₁, result⟩, hevaluate, he⟩ := Option.map_eq_some_iff.1 hstep
      cases he
      dsimp only [Balanced, Op.presented, settle, Answer.issued]
      rw [Option.toList_none, ite_self, List.append_nil]
      change e₁.outstanding.toNat = _ ↔ _
      rcases evaluate_counts hevaluate with ⟨hbalanced, hcount⟩ | ⟨⟨hdefer, haccepts⟩, hroom, hcount⟩
      · rw [hcount]
        exact ⟨fun _ => hbalanced, fun _ => hd⟩
      · rw [(opened_toNat hroom hcount).1, hd]
        simp [hdefer, haccepts]
    | _ => cases hevaluates
  · obtain ⟨hcount, hpresented, hissued⟩ := step_outstanding hstep (by simpa using hevaluates)
    have hbalanced : d.Balanced config.limits call := by
      unfold Balanced
      split <;> simp_all [Op.evaluates]
    simp [hpresented, hissued, settle, hcount, hd, hbalanced]

/-- The bound holds whatever is called. -/
theorem step_bound (hd : d.engine.outstanding ≤ config.limits.maxSimultaneousEvaluations)
    (h : d.step config call = some (d', answer)) :
    d'.engine.outstanding ≤ config.limits.maxSimultaneousEvaluations := by
  obtain ⟨⟨e', reply⟩, hstep, heq⟩ := Option.map_eq_some_iff.1 h
  cases heq
  obtain ⟨op, hears⟩ := call
  by_cases hevaluates : op.evaluates = true
  · cases op with
    | beginEvaluation now request =>
      obtain ⟨⟨e₁, ticket⟩, hbegin, he⟩ := Option.map_eq_some_iff.1 hstep
      cases he
      cases beginEvaluation_begins hbegin with
      | refused refuses lifecycle blank same =>
        subst same
        exact hd
      | issued accepts lifecycle room counted => exact (opened_toNat room counted).2
    | commitEvaluation now request =>
      obtain ⟨⟨e₁, result⟩, hcommit, he⟩ := Option.map_eq_some_iff.1 hstep
      cases he
      have hcount := commitEvaluation_settles hcommit
      rw [UInt64.le_iff_toNat_le] at hd ⊢
      change e₁.outstanding.toNat ≤ _
      omega
    | evaluate begun now request =>
      obtain ⟨⟨e₁, result⟩, hevaluate, he⟩ := Option.map_eq_some_iff.1 hstep
      cases he
      change e₁.outstanding ≤ _
      rcases evaluate_counts hevaluate with ⟨-, hcount⟩ | ⟨-, hroom, hcount⟩
      · rwa [hcount]
      · exact (opened_toNat hroom hcount).2
    | _ => cases hevaluates
  · rw [← (step_outstanding hstep (by simpa using hevaluates)).1] at hd
    exact hd

/-- The frames of a session are calls that nobody hears: the coordinator keeps no ticket, and what it
answers to a deferred evaluation carries none. -/
theorem dispatch_calls {session : Session} {frame : Frame} {reading : Reading} {served : Served}
    (h : dispatch config d.engine session frame reading = some served) :
    served.engine = d.engine ∨ ∃ op d' answer,
      frame.operation { session with dispatched := session.dispatched + 1 } reading
        (session.dispatched + 1) = some op ∧
      d.step config { op, hears := false } = some (d', answer) ∧ d'.engine = served.engine := by
  cases dispatch_performs h with
  | idle same => exact .inl same
  | @operated op answer asks steps =>
    refine .inr ⟨op, { engine := served.engine, pending := settle d.pending op.presented ++ [] },
      answer, asks, ?_, rfl⟩
    unfold step
    rw [steps]
    rfl

/-! ## Open tickets are distinct -/

/-- The open tickets carry identities from behind the counter, no two of them the same. -/
structure Minted (d : Docket) : Prop where
  behind : ∀ ticket ∈ d.pending, ∃ counter,
    ticket.decision.text = d.engine.ids.compose .decision counter ∧ counter ≤ d.engine.ids.counter
  distinct : d.pending.Nodup

/-- The counter of the factory does not wrap. -/
def Roomy (d : Docket) (call : Call) : Prop :=
  d.engine.ids.counter.toNat + call.op.mints < UInt64.size

theorem step_issued {e e' : Engine} {op : Op} {ticket : EvaluationTicket}
    (h : e.step config op = some (e', answer)) (hissued : answer.issued = some ticket) :
    ticket.decision.text = e.ids.compose .decision e'.ids.counter ∧
      e'.ids.counter = e.ids.counter + 1 + 1 + 1 ∧ op.mints = 3 := by
  by_cases hevaluates : op.evaluates = true
  · cases op with
    | beginEvaluation now request =>
      obtain ⟨⟨e₁, issued⟩, hbegin, he⟩ := Option.map_eq_some_iff.1 h
      cases he
      cases beginEvaluation_begins hbegin with
      | refused refuses lifecycle =>
        simp only [Answer.issued, lifecycle, if_true] at hissued
        cases hissued
      | issued accepts lifecycle room counted minted moved =>
        simp only [Answer.issued, lifecycle, if_false] at hissued
        cases hissued
        exact ⟨minted, moved, rfl⟩
    | commitEvaluation now request =>
      obtain ⟨⟨e₁, result⟩, -, he⟩ := Option.map_eq_some_iff.1 h
      cases he
      cases hissued
    | evaluate begun now request =>
      obtain ⟨⟨e₁, result⟩, -, he⟩ := Option.map_eq_some_iff.1 h
      cases he
      cases hissued
    | _ => cases hevaluates
  · rw [(step_outstanding h (by simpa using hevaluates)).2.2] at hissued
    cases hissued

theorem settle_sublist (pending : List EvaluationTicket) (presented : Option EvaluationTicket) :
    (settle pending presented).Sublist pending := by
  cases presented with
  | none => exact .refl _
  | some ticket => exact List.erase_sublist

theorem Minted.step (hd : d.Minted) (h : d.step config call = some (d', answer))
    (hroom : d.Roomy call) : d'.Minted := by
  obtain ⟨⟨e', reply⟩, hstep, heq⟩ := Option.map_eq_some_iff.1 h
  cases heq
  have hids := step_ids hstep
  obtain ⟨hforward, -⟩ := hids.counter hroom
  have hsublist := settle_sublist d.pending call.op.presented
  have hkept : ∀ ticket ∈ settle d.pending call.op.presented, ∃ counter,
      ticket.decision.text = e'.ids.compose .decision counter ∧ counter ≤ e'.ids.counter := by
    intro ticket hmem
    obtain ⟨counter, htext, hle⟩ := hd.behind ticket (hsublist.subset hmem)
    refine ⟨counter, by rw [htext, hids.compose], ?_⟩
    rw [UInt64.le_iff_toNat_le] at hle ⊢
    exact Nat.le_trans hle hforward
  by_cases hissues : ∃ ticket, call.hears = true ∧ reply.issued = some ticket
  · obtain ⟨ticket, hhears, hissued⟩ := hissues
    obtain ⟨htext, hcounter, hmints⟩ := step_issued hstep hissued
    have hpending : settle d.pending call.op.presented ++
        (if call.hears then reply.issued.toList else []) =
          settle d.pending call.op.presented ++ [ticket] := by simp [hhears, hissued]
    constructor
    · intro open_ hmem
      rw [hpending] at hmem
      rcases List.mem_append.1 hmem with hmem | hmem
      · exact hkept open_ hmem
      · cases List.mem_singleton.1 hmem
        exact ⟨e'.ids.counter, by rw [htext, hids.compose], UInt64.le_refl _⟩
    · change List.Nodup (_ ++ _)
      rw [hpending, List.nodup_append]
      refine ⟨hd.distinct.sublist hsublist, List.nodup_singleton _, ?_⟩
      intro old hold new hnew hsame
      cases List.mem_singleton.1 hnew
      subst hsame
      obtain ⟨counter, hold, hle⟩ := hd.behind old (hsublist.subset hold)
      obtain rfl := IdFactory.compose_inj (hold.symm.trans htext)
      unfold Roomy at hroom
      rw [hcounter, UInt64.le_iff_toNat_le] at hle
      simp only [UInt64.size, hmints] at hroom
      simp only [UInt64.toNat_add, UInt64.toNat_one] at hle
      omega
  · have hpending : settle d.pending call.op.presented ++
        (if call.hears then reply.issued.toList else []) = settle d.pending call.op.presented := by
      cases hhears : call.hears with
      | false => simp
      | true =>
        cases hissued : reply.issued with
        | none => simp
        | some ticket => exact absurd ⟨ticket, hhears, hissued⟩ hissues
    constructor
    · intro ticket hmem
      rw [hpending] at hmem
      exact hkept ticket hmem
    · change List.Nodup (_ ++ _)
      rw [hpending]
      exact hd.distinct.sublist hsublist

end

/-- The open tickets of a new engine: none. -/
def start (config : EngineConfig) (nonce : Text) : Docket := { engine := .start config nonce }

/-- The number of outstanding evaluations never exceeds its bound. It is the number of open tickets in
every run of balanced calls, and the first call that is not balanced makes it another. No two open
tickets are the same as long as the factory's counter does not wrap. What a session does to its engine
is such a call, and nobody gets a ticket by it. -/
theorem outstanding_evaluations_exact {config : EngineConfig} {nonce : Text} {d : Docket} :
    (Runs.Run (step config) (fun _ _ => True) (start config nonce) d →
      d.engine.outstanding ≤ config.limits.maxSimultaneousEvaluations) ∧
    (Runs.Run (step config) (Balanced config.limits) (start config nonce) d →
      d.Tallies ∧ ∀ call d' answer, d.step config call = some (d', answer) →
        (d'.Tallies ↔ d.Balanced config.limits call)) ∧
    (Runs.Run (step config) Roomy (start config nonce) d → d.pending.Nodup) ∧
    (∀ {session : Session} {frame : Frame} {reading : Reading} {served : Served},
      dispatch config d.engine session frame reading = some served →
      served.engine = d.engine ∨ ∃ op d' answer,
        frame.operation { session with dispatched := session.dispatched + 1 } reading
          (session.dispatched + 1) = some op ∧
        d.step config { op, hears := false } = some (d', answer) ∧ d'.engine = served.engine) := by
  refine ⟨fun hrun => ?_, fun hrun => ?_, fun hrun => ?_, fun hserved => dispatch_calls hserved⟩
  · refine hrun.inv (I := fun d => d.engine.outstanding ≤ config.limits.maxSimultaneousEvaluations)
      (fun _ _ _ _ _ hd hstep => step_bound hd hstep) ?_
    have hzero : (start config nonce).engine.outstanding = 0 := rfl
    simp only [hzero, UInt64.le_iff_toNat_le, UInt64.toNat_zero]
    omega
  · have htallies : d.Tallies :=
      hrun.inv (fun _ _ _ _ hi hd hstep => (Tallies.step_iff hd hstep).2 hi) rfl
    exact ⟨htallies, fun call d' answer hstep => htallies.step_iff hstep⟩
  · refine (hrun.inv (I := Minted) (fun _ _ _ _ hi hd hstep => hd.step hstep hi) ?_).distinct
    exact ⟨fun _ hmem => absurd hmem List.not_mem_nil, List.nodup_nil⟩

end Docket

namespace Scenario

def openTicket : EvaluationTicket :=
  ticketAfter (created ++ [activate]) (.beginEvaluation 2 (evaluation "begin"))

def opening : List Docket.Call :=
  (created ++ [activate, .beginEvaluation 2 (evaluation "begin")]).map ({ op := · })

def presents (ticket : EvaluationTicket) : Docket.Call :=
  { op := .commitEvaluation 3 { ticket, context := context 1 "commit" } }

end Scenario

open Scenario in
/-- An evaluation that is begun is counted. -/
theorem outstanding_evaluations_one : ∃ d,
    Runs.runAll (Docket.step config) (.start config "n") opening = some d ∧
      d.pending = [openTicket] ∧ d.Tallies := by
  obtain ⟨d, hrun, hpending⟩ : ∃ d,
      Runs.runAll (Docket.step config) (.start config "n") opening = some d ∧
        (d.pending == [openTicket]) = true := Runs.exists_run_of_runAll (by decide +kernel)
  refine ⟨d, hrun, by simpa using hpending, ?_⟩
  have hbalanced := (Runs.runAll_under (fun call => ∀ d, Docket.Balanced config.limits d call) hrun
    (by simp [opening, created, register, activate, Docket.Balanced])).mono fun d _ hi => hi d
  exact (Docket.outstanding_evaluations_exact.2.1 hbalanced).1

open Scenario in
/-- A commit that presents no issued ticket settles the evaluation of another. -/
theorem forged_commit_settles : ¬ ∀ (config : EngineConfig) (nonce : Text) (d : Docket),
    Runs.Run (Docket.step config) (fun _ _ => True) (.start config nonce) d → d.Tallies := by
  intro h
  obtain ⟨d, hrun, htest⟩ : ∃ d, Runs.runAll (Docket.step config) (.start config "n")
      (opening ++ [presents (rejectedTicket .malformedRequest [])]) = some d ∧
      (d.engine.outstanding == 0 && d.pending == [openTicket]) = true :=
    Runs.exists_run_of_runAll (by decide +kernel)
  simp only [Bool.and_eq_true, beq_iff_eq] at htest
  have htallies := h _ _ d (Runs.runAll_run hrun)
  rw [Docket.Tallies, htest.1, htest.2] at htallies
  cases htallies

end AdaptiveRouting
