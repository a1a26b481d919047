import AdaptiveRouting.Lib.Window
import AdaptiveRouting.Proof.Scenario
import AdaptiveRouting.Proof.Timing

/-!
# Bounded churn

The adaptations of a policy that displaced a preference, read off the calls of a run
(`displacements`). The stamps the engine keeps are an end of them long enough to count by (`Logged`),
so a commit that asks the budget keeps the bound of the policy. Phase two does not ask it for a ticket
that claims an emergency: in runs where such a ticket finds some of the budget left, the bound holds at
every commit (`churn_is_bounded`).
-/

namespace AdaptiveRouting

open Engine Guard Windows

/-- When a call displaced the preference of a policy, if it did. -/
def displaced (policy : AdaptivePolicyId) (call : Runs.Call Engine Op Answer) : Option Ticks :=
  match call.pre.state.policies[policy]?, call.post.state.policies[policy]? with
  | some record, some record' =>
    if record.preference.established &&
      record'.preference.preferredPath != record.preference.preferredPath then call.label.adaptsAt
    else none
  | _, _ => none

/-- The displacing adaptations of a run, oldest first. -/
def displacements (policy : AdaptivePolicyId) (calls : List (Runs.Call Engine Op Answer)) :
    List Ticks :=
  calls.filterMap (displaced policy)

/-- The stamp lies in the window that ends at an instant. -/
def inWindow (churn : ChurnBounds) (now stamp : Ticks) : Bool :=
  stamp ≤ now && now - stamp ≤ churn.window

/-- No update of the policy, epoch advance or recovery, on a clock that does not go back. -/
structure Quiet (config : EngineConfig) (policy : AdaptivePolicyId)
    (calls : List (Runs.Call Engine Op Answer)) (op : Op) : Prop where
  undisturbed : Undisturbed config.limits policy op
  clock : ∀ call ∈ calls, ∀ earlier ∈ call.label.adaptsAt, ∀ now ∈ op.adaptsAt, earlier ≤ now

/-- A ticket that claims an emergency displaces a preference only while the churn budget of the policy
lasts. -/
structure Paced (config : EngineConfig) (policy : AdaptivePolicyId)
    (calls : List (Runs.Call Engine Op Answer)) (e : Engine) (op : Op) : Prop extends
    Quiet config policy calls op where
  budget : ∀ now request record, Commits config.limits e op now request →
    request.ticket.dependencies.policy = policy → e.state.policies[policy]? = some record →
    request.ticket.emergency = true → record.preference.established = true →
    record.policy.semantics.churn.enabled = true →
    recentCommits record.policy.semantics.churn record.timing now <
      record.policy.semantics.churn.maxAdaptationsPerWindow.toNat

/-- The churn bound of a policy is within the configured limit. -/
def Limited (limits : Limits) (record : PolicyRecord) : Prop :=
  record.policy.semantics.churn.enabled = true →
    record.policy.semantics.churn.maxAdaptationsPerWindow.toNat ≤ limits.maxAdaptationsPerWindow.toNat

/-- The kept stamps of a record, against the stamps of a run's adaptations. -/
structure Stamped (limits : Limits) (calls : List (Runs.Call Engine Op Answer))
    (record : PolicyRecord) (displacements stamps older : List Ticks) : Prop where
  limited : Limited limits record
  counted : displacements.Sublist stamps
  sorted : stamps.Pairwise (· ≤ ·)
  read : ∀ stamp ∈ stamps, ∃ call ∈ calls, stamp ∈ call.label.adaptsAt
  kept : Windows.Kept limits.maxAdaptationsPerWindow.toNat (older ++ stamps) record.timing.churnCommits

/-- The displacing adaptations of the calls are among the stamps of the policy's record. -/
structure Logged (limits : Limits) (policy : AdaptivePolicyId)
    (calls : List (Runs.Call Engine Op Answer)) (e : Engine) : Prop where
  absent : e.state.policies[policy]? = none → displacements policy calls = []
  present : ∀ record, e.state.policies[policy]? = some record →
    ∃ stamps older, Stamped limits calls record (displacements policy calls) stamps older

/-! ## One call -/

section
variable {config : EngineConfig} {e e' : Engine} {op : Op} {answer : Answer}
  {policy : AdaptivePolicyId} {record record' : PolicyRecord}
  {calls : List (Runs.Call Engine Op Answer)}

theorem displacements_call (policy : AdaptivePolicyId) (calls : List (Runs.Call Engine Op Answer))
    (call : Runs.Call Engine Op Answer) :
    displacements policy (calls ++ [call]) =
      displacements policy calls ++ (displaced policy call).toList := by
  unfold displacements
  rw [List.filterMap_append]
  cases h : displaced policy call <;> simp [h]

theorem displaced_of_found (op : Op) (answer : Answer) (hbefore : e.state.policies[policy]? = some record)
    (hafter : e'.state.policies[policy]? = some record') :
    displaced policy ⟨e, op, answer, e'⟩ =
      if record.preference.established &&
        record'.preference.preferredPath != record.preference.preferredPath then op.adaptsAt
      else none := by
  unfold displaced
  simp only [hbefore, hafter]

theorem displaced_answer (answer answer' : Answer) :
    displaced policy ⟨e, op, answer, e'⟩ = displaced policy ⟨e, op, answer', e'⟩ := rfl

theorem displaced_of_absent (hbefore : e.state.policies[policy]? = none) :
    displaced policy ⟨e, op, answer, e'⟩ = none := by
  unfold displaced
  simp only [hbefore]

/-- A creation whose bound exceeds the limit is refused. -/
theorem createChecks_limited {s : State} {limits : Limits} {request : CreatePolicyRequest}
    {fingerprint : Text} (h : s.createChecks limits request = .ok fingerprint) (now : Ticks)
    (id : AdaptivePolicyId) : Limited limits (s.newRecord now id request) := by
  unfold State.createChecks at h
  obtain ⟨-, h⟩ := seq_ok h
  obtain ⟨⟨⟩, -, h⟩ := bind_ok h
  obtain ⟨_, -, h⟩ := bind_ok h
  obtain ⟨-, h⟩ := seq_ok h
  obtain ⟨-, h⟩ := seq_ok h
  obtain ⟨hchurn, -⟩ := seq_ok h
  intro henabled
  change request.semantics.churn.enabled = true at henabled
  rw [henabled, Bool.true_and] at hchurn
  exact Nat.le_of_not_lt (of_decide_eq_false hchurn)

namespace Stamped

variable {limits : Limits} {displaced stamps older : List Ticks}

/-- A call that stamps nothing. -/
theorem keep (record' : PolicyRecord) (h : Stamped limits calls record displaced stamps older)
    (hsemantics : record'.policy.semantics = record.policy.semantics)
    (htiming : record'.timing.churnCommits = record.timing.churnCommits)
    (call : Runs.Call Engine Op Answer) :
    Stamped limits (calls ++ [call]) record' displaced stamps older where
  limited := by
    unfold Limited
    rw [hsemantics]
    exact h.limited
  counted := h.counted
  sorted := h.sorted
  read := fun stamp hstamp => by
    obtain ⟨earlier, hmem, hread⟩ := h.read stamp hstamp
    exact ⟨earlier, List.mem_append_left _ hmem, hread⟩
  kept := by
    rw [htiming]
    exact h.kept

/-- A call that stamps its own reading, and may displace a preference. -/
theorem stamp (record' : PolicyRecord) (h : Stamped limits calls record displaced stamps older)
    (hsemantics : record'.policy.semantics = record.policy.semantics) {now : Ticks}
    {call : Runs.Call Engine Op Answer} (hreading : call.label.adaptsAt = some now)
    (hclock : ∀ call' ∈ calls, ∀ earlier ∈ call'.label.adaptsAt, earlier ≤ now)
    {last : List Ticks} (hlast : last.Sublist [now])
    (hkept : Windows.Kept limits.maxAdaptationsPerWindow.toNat (older ++ stamps ++ [now])
      record'.timing.churnCommits) :
    Stamped limits (calls ++ [call]) record' (displaced ++ last) (stamps ++ [now]) older where
  limited := by
    unfold Limited
    rw [hsemantics]
    exact h.limited
  counted := h.counted.append hlast
  sorted := by
    refine List.pairwise_append.2 ⟨h.sorted, List.pairwise_singleton .., fun a ha b hb => ?_⟩
    obtain ⟨earlier, hmem, hread⟩ := h.read a ha
    rw [List.mem_singleton.1 hb]
    exact hclock earlier hmem a hread
  read := fun a ha => by
    rcases List.mem_append.1 ha with ha | ha
    · obtain ⟨earlier, hmem, hread⟩ := h.read a ha
      exact ⟨earlier, List.mem_append_left _ hmem, hread⟩
    · rw [List.mem_singleton.1 ha]
      exact ⟨call, List.mem_append_right _ List.mem_cons_self, hreading⟩
  kept := by
    rw [← List.append_assoc]
    exact hkept

end Stamped

theorem committedRecord_churnCommits (limits : Limits) (now : Ticks) (record : PolicyRecord)
    (preference : RoutingPreference) (decision : AdaptationDecision) :
    (State.committedRecord limits now record preference decision).timing.churnCommits =
      if record.preference.established
      then keepLast limits.maxAdaptationsPerWindow (record.timing.churnCommits ++ [now])
      else record.timing.churnCommits := by
  unfold State.committedRecord PolicyRecord.remember
  dsimp only
  split <;> rfl

theorem Logged.call (hs : Logged config.limits policy calls e) (hop : Paced config policy calls e op)
    (h : e.step config op = some (e', answer)) :
    Logged config.limits policy (calls ++ [⟨e, op, answer, e'⟩]) e' := by
  cases hbefore : e.state.policies[policy]? with
  | none =>
    have hnothing : displacements policy (calls ++ [⟨e, op, answer, e'⟩]) = [] := by
      rw [displacements_call, displaced_of_absent hbefore, hs.absent hbefore]
      rfl
    refine ⟨fun _ => hnothing, fun record hafter => ?_⟩
    obtain ⟨now, request, fingerprint, -, hchecks, rfl⟩ :=
      step_arrival h hop.undisturbed.recovers hbefore hafter
    rw [hnothing]
    exact ⟨[], [], createChecks_limited hchecks now policy, .slnil, .nil, nofun, .refl _ _⟩
  | some record =>
    obtain ⟨record', hafter, hchange⟩ := step_adaptation h hop.undisturbed hbefore
    obtain ⟨stamps, older, hstamped⟩ := hs.present record hbefore
    have hclock {now : Ticks} (hreading : op.adaptsAt = some now) :
        ∀ call ∈ calls, ∀ earlier ∈ call.label.adaptsAt, earlier ≤ now :=
      fun call hmem earlier hread => hop.clock call hmem earlier hread now hreading
    refine ⟨fun hnone => ?_, fun found hfound => ?_⟩
    · rw [hafter] at hnone
      cases hnone
    rw [hafter] at hfound
    cases hfound
    rw [displacements_call, displaced_of_found op answer hbefore hafter]
    cases hchange with
    | kept semantics preference timing =>
      rw [preference, bne_self_eq_false, Bool.and_false, if_neg Bool.false_ne_true]
      refine ⟨stamps, older, ?_⟩
      simpa using hstamped.keep record' semantics (congrArg TimingState.churnCommits timing) _
    | committed commits =>
      have hstamps := committedRecord_churnCommits config.limits
      cases hestablished : record.preference.established with
      | false =>
        refine ⟨stamps, older, ?_⟩
        simpa using hstamped.keep (State.committedRecord ..) rfl
          (by rw [hstamps, hestablished]; rfl) _
      | true =>
        refine ⟨_, older, hstamped.stamp (State.committedRecord ..) rfl commits.adaptsAt
          (hclock commits.adaptsAt) ?_ ?_⟩
        · rw [commits.adaptsAt]
          split <;> simp
        · rw [hstamps, hestablished]
          exact (hstamped.kept.push _).prune
    | @restored now _ _ _ _ _ _ restores =>
      subst restores
      refine ⟨_, older, hstamped.stamp (State.rolledBackRecord ..) rfl rfl (hclock rfl) ?_
        (hstamped.kept.push now)⟩
      split
      · exact .refl _
      · exact List.nil_sublist _

/-! ## The window -/

theorem inWindow_mono {churn : ChurnBounds} {now a b : Ticks} (hab : a ≤ b) (hb : b ≤ now)
    (h : inWindow churn now a = true) : inWindow churn now b = true := by
  unfold inWindow at h ⊢
  simp only [Bool.and_eq_true, decide_eq_true_eq, UInt64.le_iff_toNat_le] at h hab hb ⊢
  rw [UInt64.toNat_sub_of_le _ _ (UInt64.le_iff_toNat_le.2 h.1)] at h
  rw [UInt64.toNat_sub_of_le _ _ (UInt64.le_iff_toNat_le.2 hb)]
  omega

theorem Stamped.countP_lt {limits : Limits} {displaced stamps older : List Ticks} {now : Ticks}
    (h : Stamped limits calls record displaced stamps older)
    (henabled : record.policy.semantics.churn.enabled = true)
    (hclock : ∀ call ∈ calls, ∀ earlier ∈ call.label.adaptsAt, earlier ≤ now)
    (hrecent : recentCommits record.policy.semantics.churn record.timing now <
      record.policy.semantics.churn.maxAdaptationsPerWindow.toNat) :
    displaced.countP (inWindow record.policy.semantics.churn now) <
      record.policy.semantics.churn.maxAdaptationsPerWindow.toNat := by
  have hpast : ∀ stamp ∈ stamps, stamp ≤ now := fun stamp hstamp => by
    obtain ⟨call, hmem, hread⟩ := h.read stamp hstamp
    exact hclock call hmem stamp hread
  have hmono : stamps.Pairwise fun a b =>
      inWindow record.policy.semantics.churn now a = true →
        inWindow record.policy.semantics.churn now b = true :=
    h.sorted.imp_of_mem fun _ hb hab => inWindow_mono hab (hpast _ hb)
  exact Nat.lt_of_le_of_lt h.counted.countP_le
    (h.kept.countP_lt hmono (h.limited henabled) hrecent)

end

/-- At every commit that displaces the preference of a policy with an enabled churn bound, the
displacing adaptations in the window that ends there, this one included, are within the bound. -/
theorem churn_is_bounded {config : EngineConfig} {policy : AdaptivePolicyId} {e₀ e e' : Engine}
    {calls : List (Runs.Call Engine Op Answer)} {op : Op} {answer : Answer} {now : Ticks}
    {request : CommitDecisionRequest} {record : PolicyRecord}
    (hlimited : ∀ record, e₀.state.policies[policy]? = some record → Limited config.limits record)
    (htrace : Runs.Trace (Engine.step config) (Paced config policy) e₀ calls e)
    (hop : Paced config policy calls e op) (hstep : e.step config op = some (e', answer))
    (hcommits : Commits config.limits e op now request)
    (hdisplaced : displaced policy ⟨e, op, answer, e'⟩ = some now)
    (hrecord : e'.state.policies[policy]? = some record)
    (henabled : record.policy.semantics.churn.enabled = true) :
    (displacements policy (calls ++ [⟨e, op, answer, e'⟩])).countP
        (inWindow record.policy.semantics.churn now) ≤
      record.policy.semantics.churn.maxAdaptationsPerWindow.toNat := by
  have hlogged : Logged config.limits policy calls e := by
    clear hop hstep hcommits hdisplaced
    induction htrace with
    | start =>
      exact ⟨fun _ => rfl, fun record hfound =>
        ⟨[], record.timing.churnCommits, hlimited record hfound, .slnil, .nil, nofun, by
          rw [List.append_nil]
          exact .refl _ _⟩⟩
    | call _ hok hs ih => exact ih.call hok hs
  cases hbefore : e.state.policies[policy]? with
  | none =>
    rw [displaced_of_absent hbefore] at hdisplaced
    cases hdisplaced
  | some before =>
    obtain ⟨record', hafter, hchange⟩ := step_adaptation hstep hop.undisturbed hbefore
    obtain ⟨stamps, older, hstamped⟩ := hlogged.present before hbefore
    have hfound := displaced_of_found op answer hbefore hafter
    rw [hafter] at hrecord
    cases hrecord
    rw [hdisplaced] at hfound
    cases hchange with
    | kept _ preference => simp [preference] at hfound
    | restored restores =>
      subst restores
      cases hcommits
    | @committed now' request' _ _ _ _ _ _ _ commits subject _ verified =>
      have hnow : now' = now := Option.some.inj (commits.adaptsAt.symm.trans hcommits.adaptsAt)
      subst hnow
      have hclock : ∀ call ∈ calls, ∀ earlier ∈ call.label.adaptsAt, earlier ≤ now' :=
        fun call hmem earlier hread => hop.clock call hmem earlier hread now' commits.adaptsAt
      have hestablished : before.preference.established = true := by
        cases hest : before.preference.established with
        | true => rfl
        | false => simp [hest] at hfound
      change before.policy.semantics.churn.enabled = true at henabled
      have hrecent : recentCommits before.policy.semantics.churn before.timing now' <
          before.policy.semantics.churn.maxAdaptationsPerWindow.toNat := by
        cases hemergency : request'.ticket.emergency with
        | true =>
          exact hop.budget now' request' before commits subject hbefore hemergency hestablished
            henabled
        | false =>
          have hgate := (State.verifyCommit_ordinary verified hemergency).2.2
          rw [henabled, Bool.true_and] at hgate
          exact Nat.lt_of_not_le (of_decide_eq_false hgate)
      have hcount := hstamped.countP_lt henabled hclock hrecent
      rw [displacements_call, hdisplaced, List.countP_append]
      show _ + [now'].countP (inWindow before.policy.semantics.churn now') ≤
        before.policy.semantics.churn.maxAdaptationsPerWindow.toNat
      have hlast := List.countP_le_length (p := inWindow before.policy.semantics.churn now')
        (l := [now'])
      exact Nat.le_trans (Nat.add_le_add_left hlast _) hcount

/-! ## An emergency past the bound -/

namespace Scenario

/-- The policy may adapt once in its window, and leaves an unavailable path in an emergency. -/
def bounded : CreatePolicyRequest :=
  { create 1 with semantics := { semantics with
      churn := { maxAdaptationsPerWindow := 1, window := 1000 }
      emergency := { enabled := true, onCurrentPathUnavailable := true } } }

/-- The policy prefers the left path and the right one is better. -/
def tempted : List Op :=
  [register, .createPolicy 0 bounded, activate, notify (declare left) "left",
    publish left 100 "left-evidence", .evaluate 2 2 (evaluation "establish"),
    notify (declare right) "right", publish right 50 "right-evidence"]

def switch : Op := .evaluate 3 3 (evaluation "switch")

/-- The policy switched to the right path, which becomes unavailable. -/
def stranded : List Op :=
  tempted ++ [switch,
    notify { declare right with binding := { binding right with available := false } } "lost"]

def escape : Op := .evaluate 4 4 (evaluation "escape")

def callsTo (ops : List Op) : List (Runs.Call Engine Op Answer) :=
  Runs.callsOf (Engine.step config) engine ops

/-- A run of listed operations on a clock that does not go back. -/
theorem quiet_calls (ok : List (Runs.Call Engine Op Answer) → Engine → Op → Prop) {ops : List Op}
    (h : returns ops = true)
    (hclock : ((callsTo ops).filterMap fun call => call.label.adaptsAt).Pairwise (· ≤ ·))
    (hquiet : ((callsTo ops).all fun call => call.label.quiet policy) = true)
    (hok : ∀ calls call, call ∈ callsTo ops → Quiet config policy calls call.label →
      ok calls call.pre call.label) :
    Runs.Trace (Engine.step config) ok engine (callsTo ops) (after ops) := by
  refine Runs.Trace.callsOf .start (runAll_after h) fun front call back heq => ?_
  have hmem : call ∈ callsTo ops := by
    unfold callsTo
    rw [heq]
    exact List.mem_append_right _ List.mem_cons_self
  refine hok _ call hmem ⟨.of_quiet (List.all_eq_true.1 hquiet call hmem), ?_⟩
  intro earlier hearlier stamp hstamp now hnow
  unfold callsTo at hclock
  rw [heq, List.filterMap_append] at hclock
  exact (List.pairwise_append.1 hclock).2.2 stamp (List.mem_filterMap.2 ⟨earlier, hearlier, hstamp⟩)
    now (List.mem_filterMap.2 ⟨call, List.mem_cons_self, hnow⟩)

theorem quiet_next {ops : List Op} {op : Op} (hquiet : op.quiet policy = true)
    (hclock : (((callsTo ops).filterMap fun call => call.label.adaptsAt).all fun earlier =>
      op.adaptsAt.all fun now => earlier ≤ now) = true) : Quiet config policy (callsTo ops) op := by
  refine ⟨.of_quiet hquiet, fun call hmem earlier hread now hnow => ?_⟩
  have hle := List.all_eq_true.1 hclock earlier (List.mem_filterMap.2 ⟨call, hmem, hread⟩)
  rw [hnow] at hle
  simpa using hle

end Scenario

open Scenario in
/-- A switch within the bound. -/
theorem switch_is_bounded : ∃ e' answer record,
    (after tempted).step config switch = some (e', answer) ∧
      e'.state.policies[policy]? = some record ∧
      (displacements policy (callsTo tempted ++ [⟨after tempted, switch, answer, e'⟩])).countP
        (inWindow record.policy.semantics.churn 3) ≤
        record.policy.semantics.churn.maxAdaptationsPerWindow.toNat := by
  -- no adaptation is stamped yet, so the budget lasts whatever a ticket claims
  have hpaced {calls : List (Runs.Call Engine Op Answer)} {e : Engine} {op : Op}
      (hquiet : Quiet config policy calls op)
      (hunstamped : ((e.state.policies[policy]?).all fun record =>
        record.timing.churnCommits.isEmpty) = true) : Paced config policy calls e op :=
    { hquiet with
      budget := fun now request record _ _ hfound _ _ henabled => by
        rw [hfound, Option.all_some, List.isEmpty_iff] at hunstamped
        rw [recentCommits, hunstamped, List.countP_nil]
        refine Nat.pos_of_ne_zero fun hzero => ?_
        have hzero : record.policy.semantics.churn.maxAdaptationsPerWindow = 0 :=
          UInt32.toNat_inj.1 hzero
        simp [ChurnBounds.enabled, hzero] at henabled }
  obtain ⟨answer, hstep⟩ := step_after tempted switch (by decide +kernel)
  have hunstamped : ((callsTo tempted).all fun call =>
      (call.pre.state.policies[policy]?).all fun record =>
        record.timing.churnCommits.isEmpty) = true := by decide +kernel
  have htrace := quiet_calls (Paced config policy) (by decide +kernel : returns tempted = true)
    (by decide +kernel) (by decide +kernel) fun calls call hmem hquiet =>
      hpaced hquiet (List.all_eq_true.1 hunstamped call hmem)
  have hswitch : Quiet config policy (callsTo tempted) switch :=
    quiet_next (by decide +kernel) (by decide +kernel)
  obtain ⟨_, hcommits⟩ := step_evaluates hstep
  have hrecord : ((after (tempted ++ [switch])).state.policies[policy]?).any
      (fun record => record.policy.semantics.churn.enabled) = true := by decide +kernel
  obtain ⟨record, hfound, henabled⟩ := (Option.any_eq_true _ _).1 hrecord
  refine ⟨_, answer, record, hstep, hfound, ?_⟩
  refine churn_is_bounded (fun record hnone => ?_) htrace
    (hpaced hswitch (by decide +kernel)) hstep hcommits ?_ hfound henabled
  · simp [engine, Engine.start] at hnone
  · rw [displaced_answer answer (.view none)]
    decide +kernel

open Scenario in
/-- An emergency adapts a second time in a window whose bound is one adaptation. -/
theorem emergency_exceeds_churn : ∃ e' answer record,
    Runs.Trace (Engine.step config) (fun calls _ op => Quiet config policy calls op) engine
        (callsTo stranded) (after stranded) ∧
      Quiet config policy (callsTo stranded) escape ∧
      (after stranded).step config escape = some (e', answer) ∧
      displaced policy ⟨after stranded, escape, answer, e'⟩ = some 4 ∧
      e'.state.policies[policy]? = some record ∧
      record.policy.semantics.churn.enabled = true ∧
      record.policy.semantics.churn.maxAdaptationsPerWindow.toNat <
        (displacements policy (callsTo stranded ++ [⟨after stranded, escape, answer, e'⟩])).countP
          (inWindow record.policy.semantics.churn 4) := by
  obtain ⟨answer, hstep⟩ := step_after stranded escape (by decide +kernel)
  have htrace := quiet_calls (fun calls _ op => Quiet config policy calls op)
    (by decide +kernel : returns stranded = true) (by decide +kernel) (by decide +kernel)
    fun _ _ _ h => h
  have hrecord : ((after (stranded ++ [escape])).state.policies[policy]?).any (fun record =>
      record.policy.semantics.churn == bounded.semantics.churn) = true := by decide +kernel
  obtain ⟨record, hfound, hchurn⟩ := (Option.any_eq_true _ _).1 hrecord
  have hchurn : record.policy.semantics.churn = bounded.semantics.churn := by simpa using hchurn
  have hlast : displaced policy ⟨after stranded, escape, answer, after (stranded ++ [escape])⟩ =
      some 4 := by
    rw [displaced_answer answer (.view none)]
    decide +kernel
  have hfirst : displacements policy (callsTo stranded) = [3] := by decide +kernel
  refine ⟨_, answer, record, htrace, quiet_next (by decide +kernel) (by decide +kernel), hstep, hlast,
    hfound, ?_, ?_⟩
  · rw [hchurn]
    rfl
  · rw [displacements_call, hlast, hfirst, hchurn]
    decide

end AdaptiveRouting
