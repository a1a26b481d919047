import AdaptiveRouting.Proof.Scenario
import AdaptiveRouting.Proof.Standing

/-!
# Fencing

Fences and epochs only grow, until a store is recovered: recovery takes the epoch after the stored
one and forgets every fence. So a context that was retired (its epoch ended, or its boot was fenced)
stays retired as long as every recovered store carries at least the context's epoch, and a fenced
boot stays fenced as long as no store is recovered.
-/

namespace AdaptiveRouting

open Guard Engine

/-! ## Growth -/

/-- No fence is lost and the epoch does not fall. -/
structure State.Grows (s s' : State) : Prop where
  epoch : s.epoch ≤ s'.epoch
  fences : ∀ boot ∈ s.fencedBoots, boot ∈ s'.fencedBoots

namespace State

theorem Grows.of_standing {s s' : State} (h : s'.standing = s.standing) : Grows s s' where
  epoch := by
    rw [epoch_of_standing h]
    exact UInt64.le_refl _
  fences := by
    rw [fencedBoots_of_standing h]
    exact fun _ hb => hb

theorem Grows.trans {a b c : State} (h₁ : Grows a b) (h₂ : Grows b c) : Grows a c where
  epoch := UInt64.le_trans h₁.epoch h₂.epoch
  fences := fun boot hb => h₂.fences boot (h₁.fences boot hb)

theorem registerPublisher_epoch (s : State) (limits : Limits) (publisher : PublisherId)
    (workerBoot : WorkerBootId) (scope : AuthorityScope) (session : SessionId) :
    (s.registerPublisher limits publisher workerBoot scope session).1.epoch = s.epoch := by
  unfold registerPublisher
  split
  · rfl
  · dsimp only
    split
    · rfl
    · split <;> rfl

/-- The fenced boots after a registration: one more when another incarnation was registered. -/
theorem registerPublisher_fencedBoots (s : State) (limits : Limits) (publisher : PublisherId)
    (workerBoot : WorkerBootId) (scope : AuthorityScope) (session : SessionId) :
    (s.registerPublisher limits publisher workerBoot scope session).1.fencedBoots =
      match s.registerChecks limits publisher workerBoot scope session,
        s.registrations[publisher]? with
      | .ok (), some existing =>
        if existing.workerBoot = workerBoot then s.fencedBoots
        else s.fencedBoots.insert existing.workerBoot
      | _, _ => s.fencedBoots := by
  unfold registerPublisher
  cases s.registerChecks limits publisher workerBoot scope session with
  | error answer => rfl
  | ok u =>
    dsimp only
    cases s.registrations[publisher]? with
    | none => rfl
    | some existing =>
      dsimp only
      split <;> rfl

theorem fenceLive_fold (entries : List (PublisherId × PublisherRegistration)) (s : State)
    (boot : WorkerBootId) : boot ∈ (entries.foldl fenceLive s).fencedBoots ↔
      boot ∈ s.fencedBoots ∨ ∃ entry ∈ entries, entry.2.workerBoot = boot := by
  induction entries generalizing s with
  | nil => simp
  | cons entry rest ih =>
    rw [List.foldl_cons, ih]
    simp only [fenceLive, mem_insert_set, List.mem_cons, exists_eq_or_imp]
    tauto

/-- Some publisher is registered with the boot. -/
def Registered (s : State) (boot : WorkerBootId) : Prop :=
  ∃ (publisher : PublisherId) (registration : PublisherRegistration),
    s.registrations[publisher]? = some registration ∧ registration.workerBoot = boot

theorem fenceAll_epoch (s : State) : s.fenceAll.epoch = s.epoch :=
  foldl_keeps (f := fenceLive) State.epoch (fun _ _ => rfl) _ _

/-- Ending an epoch fences every registered incarnation. -/
theorem enterEpoch_epoch (s : State) : s.enterEpoch.epoch = s.epoch := s.fenceAll_epoch

theorem fenceAll_fencedBoots (s : State) (boot : WorkerBootId) : boot ∈ s.fenceAll.fencedBoots ↔
    boot ∈ s.fencedBoots ∨ s.Registered boot := by
  rw [fenceAll, fenceLive_fold]
  simp only [Prod.exists, Std.ExtTreeMap.mem_toList_iff_getElem?_eq_some, Registered]

/-- What an epoch advance makes of the epoch and the fences. -/
theorem advanceEpoch_cases (s : State) (reason : Text) :
    s.epoch.next = none ∧ (s.advanceEpoch reason).1 = s ∨
      ∃ next, s.epoch.next = some next ∧ (s.advanceEpoch reason).1.epoch = next ∧
        (s.authorityGeneration.next = none ∧
            (s.advanceEpoch reason).1.fencedBoots = s.fencedBoots ∨
          ∃ authority, s.authorityGeneration.next = some authority ∧
            ∀ boot, boot ∈ (s.advanceEpoch reason).1.fencedBoots ↔
              boot ∈ s.fencedBoots ∨ s.Registered boot) := by
  unfold advanceEpoch
  cases hnext : s.epoch.next with
  | none => exact .inl ⟨rfl, rfl⟩
  | some next =>
    refine .inr ⟨next, rfl, ?_⟩
    dsimp only
    cases hauthority : s.authorityGeneration.next with
    | none => exact ⟨rfl, .inl ⟨rfl, rfl⟩⟩
    | some authority =>
      refine ⟨fenceAll_epoch _, .inr ⟨authority, rfl, fun boot => ?_⟩⟩
      exact fenceAll_fencedBoots { s with epoch := next, authorityGeneration := authority } boot

theorem fencePublisher_fencedBoots (s : State) (publisher : PublisherId) (workerBoot : WorkerBootId)
    (cause : Text) : (s.fencePublisher publisher workerBoot cause).1.fencedBoots =
      match s.registrations[publisher]? with
      | some existing =>
        if existing.workerBoot = workerBoot then s.fencedBoots.insert workerBoot else s.fencedBoots
      | none => s.fencedBoots := by
  unfold fencePublisher
  cases s.registrations[publisher]? with
  | none => rfl
  | some existing =>
    dsimp only
    by_cases hboot : existing.workerBoot = workerBoot
    · simp only [hboot, ne_eq, not_true_eq_false, ↓reduceIte]
      rfl
    · simp only [hboot, ne_eq, not_false_eq_true, ↓reduceIte]

theorem fencePublisher_epoch (s : State) (publisher : PublisherId) (workerBoot : WorkerBootId)
    (cause : Text) : (s.fencePublisher publisher workerBoot cause).1.epoch = s.epoch := by
  unfold fencePublisher
  split
  · rfl
  · split <;> rfl

end State

section
variable {config : EngineConfig} {e e' : Engine} {op : Op} {answer : Answer}

/-- An operation that recovers no store keeps every fence and does not lower the epoch. -/
theorem step_grows (h : e.step config op = some (e', answer))
    (hop : op.recovers config.limits = none) : e.state.Grows e'.state := by
  by_cases hgoverns : op.governs = true
  · cases op with
    | registerPublisher publisher workerBoot scope session =>
      cases h
      refine ⟨by rw [State.registerPublisher_epoch]; exact UInt64.le_refl _, fun boot hb => ?_⟩
      change boot ∈ (e.state.registerPublisher ..).1.fencedBoots
      rw [State.registerPublisher_fencedBoots]
      split
      · split
        · exact hb
        · exact mem_insert_set.2 (.inr hb)
      · exact hb
    | fencePublisher publisher workerBoot cause =>
      cases h
      refine ⟨by rw [State.fencePublisher_epoch]; exact UInt64.le_refl _, fun boot hb => ?_⟩
      change boot ∈ (e.state.fencePublisher ..).1.fencedBoots
      rw [State.fencePublisher_fencedBoots]
      split
      · split
        · exact mem_insert_set.2 (.inr hb)
        · exact hb
      · exact hb
    | advanceEpoch reason =>
      cases h
      change e.state.Grows (e.state.advanceEpoch reason).1
      rcases e.state.advanceEpoch_cases reason with ⟨-, hs⟩ | ⟨next, hnext, hepoch, hfences⟩
      · rw [hs]
        exact .of_standing rfl
      · refine ⟨?_, fun boot hb => ?_⟩
        · rw [hepoch]
          exact UInt64.le_of_lt (Generation.lt_next hnext)
        · rcases hfences with ⟨-, hsame⟩ | ⟨authority, -, hfenced⟩
          · rwa [hsame]
          · exact (hfenced boot).2 (.inl hb)
    | decodeStore now decoded origin =>
      cases h
      change e.state.Grows (e.state.decodeStore config now decoded origin).1
      cases decoded with
      | error refusal => exact .of_standing rfl
      | ok durable =>
        rcases applyDurable_cases e.state config now durable origin with
          ⟨-, hs⟩ | ⟨hadmissible, -⟩
        · exact .of_standing (congrArg State.standing hs)
        · simp [Op.recovers, hadmissible] at hop
    | _ => cases hgoverns
  · exact .of_standing (step_standing h (by simpa using hgoverns))

/-- A recovery takes the epoch after the stored one. -/
theorem step_recovers {durable : DurableState} (h : e.step config op = some (e', answer))
    (hop : op.recovers config.limits = some durable) :
    ∃ epoch, durable.epoch.next = some epoch ∧ e'.state.epoch = epoch := by
  obtain ⟨now, epoch, authority, hepoch, -, rfl⟩ := step_recovered h hop
  exact ⟨epoch, hepoch, congrArg State.Standing.epoch (recoveredState_standing ..)⟩

/-! ## Retired contexts -/

/-- The incarnations an operation fences in a state. -/
inductive Fences (limits : Limits) (s : State) : Op → WorkerBootId → Prop
  | explicit {publisher : PublisherId} {cause : Text} {registration : PublisherRegistration}
      (registered : s.registrations[publisher]? = some registration) :
      Fences limits s (.fencePublisher publisher registration.workerBoot cause)
        registration.workerBoot
  | reincarnation {publisher : PublisherId} {workerBoot : WorkerBootId} {scope : AuthorityScope}
      {session : SessionId} {registration : PublisherRegistration}
      (checks : s.registerChecks limits publisher workerBoot scope session = .ok ())
      (registered : s.registrations[publisher]? = some registration)
      (other : registration.workerBoot ≠ workerBoot) :
      Fences limits s (.registerPublisher publisher workerBoot scope session)
        registration.workerBoot
  | epoch {reason : Text} {publisher : PublisherId} {registration : PublisherRegistration}
      (registered : s.registrations[publisher]? = some registration)
      (epoch : s.epoch.next.isSome = true) (authority : s.authorityGeneration.next.isSome = true) :
      Fences limits s (.advanceEpoch reason) registration.workerBoot

theorem Fences.fenced {boot : WorkerBootId} (hf : Fences config.limits e.state op boot)
    (h : e.step config op = some (e', answer)) : boot ∈ e'.state.fencedBoots := by
  cases hf with
  | explicit registered =>
    cases h
    change _ ∈ (e.state.fencePublisher ..).1.fencedBoots
    rw [State.fencePublisher_fencedBoots, registered]
    simp
  | reincarnation checks registered other =>
    cases h
    change _ ∈ (e.state.registerPublisher ..).1.fencedBoots
    rw [State.registerPublisher_fencedBoots, checks, registered]
    simp [other]
  | epoch registered hepoch hauthority =>
    cases h
    change _ ∈ (e.state.advanceEpoch _).1.fencedBoots
    rcases e.state.advanceEpoch_cases _ with ⟨hnone, -⟩ | ⟨next, -, -, hfences⟩
    · simp [hnone] at hepoch
    · rcases hfences with ⟨hnone, -⟩ | ⟨authority, -, hfenced⟩
      · simp [hnone] at hauthority
      · exact (hfenced _).2 (.inr ⟨_, _, registered, rfl⟩)

/-- The context's epoch is over, or its boot is fenced. -/
def Retired (s : State) (context : MutationContext) : Prop :=
  context.epoch < s.epoch ∨ context.workerBoot ∈ s.fencedBoots

theorem Retired.not_live {s : State} {context : MutationContext}
    {registration : PublisherRegistration} (h : Retired s context) :
    ¬ Live s context registration := by
  intro hl
  rcases h with h | h
  · rw [hl.epoch] at h
    exact UInt64.lt_irrefl _ h
  · exact hl.unfenced h

theorem Retired.grows {s s' : State} {context : MutationContext} (h : Retired s context)
    (hg : s.Grows s') : Retired s' context := by
  rcases h with h | h
  · exact .inl (UInt64.lt_of_lt_of_le h hg.epoch)
  · exact .inr (hg.fences _ h)

/-- Stores the operation recovers carry at least an epoch. -/
def RecoversFrom (limits : Limits) (epoch : CoordinatorEpoch) (_ : Engine) (op : Op) : Prop :=
  ∀ durable, op.recovers limits = some durable → epoch ≤ durable.epoch

/-- A retired context stays retired through every operation but the recovery of a store whose epoch
is before the context's. -/
theorem Retired.step {context : MutationContext} (hr : Retired e.state context)
    (hop : RecoversFrom config.limits context.epoch e op)
    (h : e.step config op = some (e', answer)) : Retired e'.state context := by
  cases hrecovers : op.recovers config.limits with
  | none => exact hr.grows (step_grows h hrecovers)
  | some durable =>
    obtain ⟨epoch, hnext, hepoch⟩ := step_recovers h hrecovers
    refine .inl ?_
    rw [hepoch]
    exact UInt64.lt_of_le_of_lt (hop durable hrecovers) (Generation.lt_next hnext)

/-- An operation that retires a context of the state it starts from: it ends the epoch the context
was made in, or fences the boot the context carries. -/
inductive Retires (limits : Limits) (s : State) (context : MutationContext) : Op → Prop
  | epoch {reason : Text} (created : context.epoch ≤ s.epoch) (next : s.epoch.next.isSome = true) :
      Retires limits s context (.advanceEpoch reason)
  | fence {op : Op} (fences : Fences limits s op context.workerBoot) : Retires limits s context op

theorem Retires.retired {context : MutationContext}
    (hr : Retires config.limits e.state context op) (h : e.step config op = some (e', answer)) :
    Retired e'.state context := by
  cases hr with
  | epoch created next =>
    cases h
    rcases e.state.advanceEpoch_cases _ with ⟨hnone, -⟩ | ⟨epoch, hnext, hepoch, -⟩
    · simp [hnone] at next
    · refine .inl ?_
      change context.epoch < (e.state.advanceEpoch _).1.epoch
      rw [hepoch]
      exact UInt64.lt_of_le_of_lt created (Generation.lt_next hnext)
  | fence fences => exact .inr (fences.fenced h)

theorem Retired.run {context : MutationContext} (hr : Retired e.state context)
    (h : RunUnder config (RecoversFrom config.limits context.epoch) e e') :
    Retired e'.state context :=
  h.inv (I := fun e => Retired e.state context) (fun _ _ _ _ hop hr hstep => hr.step hop hstep) hr

theorem Retired.step_state {context : MutationContext} (hr : Retired e.state context)
    (hcontext : op.context = some context) (h : e.step config op = some (e', answer)) :
    e'.state = e.state := by
  by_contra hne
  obtain ⟨registration, hl⟩ := step_live h hcontext hne
  exact hr.not_live hl

end

/-! ## Mutation and live authority -/

/-- Only a live context changes the state. A context that an epoch advance, a fence or a
re-incarnation retired never changes it again in a run whose recovered stores all carry at least the
context's epoch. -/
theorem mutation_needs_live_authority (config : EngineConfig) :
    (∀ (e e' : Engine) (op : Op) (context : MutationContext) (answer : Answer),
      op.context = some context → e.step config op = some (e', answer) → e'.state ≠ e.state →
      ∃ registration, Live e.state context registration) ∧
    (∀ (e e₁ e₂ e₃ : Engine) (op op' : Op) (context : MutationContext) (answer answer' : Answer),
      Retires config.limits e.state context op → e.step config op = some (e₁, answer) →
      RunUnder config (RecoversFrom config.limits context.epoch) e₁ e₂ →
      op'.context = some context → e₂.step config op' = some (e₃, answer') →
      e₃.state = e₂.state) :=
  ⟨fun _ _ _ _ _ hcontext h hne => step_live h hcontext hne,
    fun _ _ _ _ _ _ _ _ _ hretires h hrun hcontext h' =>
      ((hretires.retired h).run hrun).step_state hcontext h'⟩

open Scenario in
/-- A creation has live authority; under the context of an ended epoch it changes nothing. -/
theorem creation_needs_live_authority :
    (∃ registration, Live (after [register]).state (create 1).context registration) ∧
      (after [register, .advanceEpoch [], .createPolicy 0 (create 1)]).state =
        (after [register, .advanceEpoch []]).state := by
  obtain ⟨answer, hlive⟩ := step_after [register] (.createPolicy 0 (create 1)) (by decide +kernel)
  obtain ⟨_, hadvance⟩ := step_after [register] (.advanceEpoch []) (by decide +kernel)
  obtain ⟨_, hcreate⟩ := step_after [register, .advanceEpoch []] (.createPolicy 0 (create 1))
    (by decide +kernel)
  refine ⟨(mutation_needs_live_authority config).1 _ _ _ _ _ rfl hlive fun hsame => ?_,
    (mutation_needs_live_authority config).2 _ _ _ _ _ _ (context 1 "create") _ _
      (.epoch (by decide) (by decide)) hadvance (.refl _) rfl hcreate⟩
  have hsize := congrArg (fun s : State => s.policies.size) hsame
  revert hsize
  decide +kernel

open Scenario in
/-- The store of epoch 1, loaded in epoch 3, brings epoch 2 back: a context that was live in epoch 2,
and that the advance to epoch 3 retired, creates a policy. -/
theorem recovered_epoch_creates :
    let before : List Op := [.advanceEpoch [], register]
    let stored := (after []).state.buildDurable 0
    let recovered : List Op := before ++ [.advanceEpoch [], .decodeStore 0 (.ok stored) [], register]
    ∃ registration answer answer',
      Engine.Reachable config (after before) ∧
      Live (after before).state (create 2).context registration ∧
      Retires config.limits (after before).state (create 2).context (.advanceEpoch []) ∧
      (after before).step config (.advanceEpoch []) =
        some (after (before ++ [.advanceEpoch []]), answer) ∧
      Engine.Run config (after (before ++ [.advanceEpoch []])) (after recovered) ∧
      (after recovered).step config (.createPolicy 0 (create 2)) =
        some (after (recovered ++ [.createPolicy 0 (create 2)]), answer') ∧
      (after (recovered ++ [.createPolicy 0 (create 2)])).state ≠ (after recovered).state := by
  intro before stored recovered
  obtain ⟨answer, hadvance⟩ := step_after before (.advanceEpoch []) (by decide +kernel)
  obtain ⟨answer', hcreate⟩ := step_after recovered (.createPolicy 0 (create 2)) (by decide +kernel)
  refine ⟨_, answer, answer', reachable_after (by decide +kernel),
    (State.checkCaller_ok (rfl : (after before).state.checkCaller (create 2).context none none =
      _)).toLive, ?_, hadvance, ?_, hcreate, fun hsame => ?_⟩
  · exact .epoch (by decide +kernel) (by decide +kernel)
  · exact run_after (before ++ [.advanceEpoch []]) [.decodeStore 0 (.ok stored) [], register]
      (by decide +kernel)
  · have hsize := congrArg (fun s : State => s.policies.size) hsame
    revert hsize
    decide +kernel

/-! ## Permanent fences -/

section
variable {config : EngineConfig} {e e' : Engine} {op : Op} {answer : Answer}

theorem registerPublisher_fenced {s : State} {limits : Limits} {publisher : PublisherId}
    {boot : WorkerBootId} {scope : AuthorityScope} {session : SessionId} (h : boot ∈ s.fencedBoots) :
    (s.registerPublisher limits publisher boot scope session).1 = s ∧
      (s.registerPublisher limits publisher boot scope session).2.accepted = false := by
  have hcontains : s.fencedBoots.contains boot = true := Std.ExtTreeSet.contains_iff_mem.2 h
  unfold State.registerPublisher
  cases hchecks : s.registerChecks limits publisher boot scope session with
  | error refused =>
    refine ⟨rfl, ?_⟩
    dsimp only
    unfold State.registerChecks at hchecks
    rcases seq_error hchecks with ⟨-, rfl⟩ | ⟨-, hchecks⟩
    · simp [OperationResult.accepted, Outcome.isSuccess]
    rcases seq_error hchecks with ⟨-, rfl⟩ | ⟨-, hchecks⟩
    · simp [OperationResult.accepted, Outcome.isSuccess]
    rcases seq_error hchecks with ⟨-, rfl⟩ | ⟨hunfenced, -⟩
    · simp [OperationResult.accepted, Outcome.isSuccess]
    · rw [hcontains] at hunfenced
      cases hunfenced
  | ok u =>
    unfold State.registerChecks at hchecks
    obtain ⟨-, hchecks⟩ := seq_ok hchecks
    obtain ⟨-, hchecks⟩ := seq_ok hchecks
    obtain ⟨hunfenced, -⟩ := seq_ok hchecks
    rw [hcontains] at hunfenced
    cases hunfenced

theorem fenced_run {boot : WorkerBootId} (hb : boot ∈ e.state.fencedBoots)
    (h : RunUnder config (fun _ op => op.recovers config.limits = none) e e') :
    boot ∈ e'.state.fencedBoots :=
  h.inv (I := fun e => boot ∈ e.state.fencedBoots)
    (fun _ _ _ _ hop hb hstep => (step_grows hstep hop).fences boot hb) hb

end

/-- A boot that was fenced explicitly, by a re-incarnation or by an epoch advance stays out, in a run
that recovers no store: no registration of it is accepted and no operation that carries it changes
the state. -/
theorem fenced_boot_stays_out {config : EngineConfig} {e e₁ e₂ : Engine} {op : Op} {answer : Answer}
    {boot : WorkerBootId} (hfences : Fences config.limits e.state op boot)
    (hstep : e.step config op = some (e₁, answer))
    (hrun : RunUnder config (fun _ op => op.recovers config.limits = none) e₁ e₂) :
    (∀ (publisher : PublisherId) (scope : AuthorityScope) (session : SessionId) (e₃ : Engine)
        (result : OperationResult),
      e₂.step config (.registerPublisher publisher boot scope session) = some (e₃, .result result) →
      result.accepted = false ∧ e₃.state = e₂.state) ∧
    (∀ (op' : Op) (context : MutationContext) (e₃ : Engine) (answer' : Answer),
      op'.context = some context → context.workerBoot = boot →
      e₂.step config op' = some (e₃, answer') → e₃.state = e₂.state) := by
  have hfenced : boot ∈ e₂.state.fencedBoots := fenced_run (hfences.fenced hstep) hrun
  refine ⟨fun publisher scope session e₃ result hregister => ?_,
    fun op' context e₃ answer' hcontext hboot hop' => ?_⟩
  · cases hregister
    obtain ⟨hs, hrefused⟩ :=
      @registerPublisher_fenced e₂.state config.limits publisher boot scope session hfenced
    exact ⟨hrefused, hs⟩
  · have hretired : Retired e₂.state context := .inr (hboot ▸ hfenced)
    exact hretired.step_state hcontext hop'

open Scenario in
/-- A fenced boot is refused when it registers again. -/
theorem fenced_boot_is_refused :
    let fenced : List Op := [register, .fencePublisher publisher boot []]
    ∃ e₃ result, (after fenced).step config register = some (e₃, .result result) ∧
      result.accepted = false ∧ e₃.state = (after fenced).state := by
  intro fenced
  obtain ⟨_, hfence⟩ := step_after [register] (.fencePublisher publisher boot []) (by decide +kernel)
  have hregistered : (after [register]).state.registrations[publisher]? =
      some { publisher, workerBoot := boot, scope, epoch := ⟨1⟩, authorityGeneration := ⟨1⟩, session } :=
    by decide +kernel
  exact ⟨_, _, rfl,
    (fenced_boot_stays_out (.explicit hregistered) hfence (.refl _)).1 _ _ _ _ _ rfl⟩

open Scenario in
/-- Fences are not stored: loading the store of a state in which a boot is fenced lets the boot
register again. -/
theorem recovery_readmits_fenced_boot :
    let fenced : List Op := [register, .fencePublisher publisher boot []]
    let recover : Op := .decodeStore 0 (.ok ((after fenced).state.buildDurable 0)) []
    ∃ e₃ answer result,
      Engine.Reachable config (after fenced) ∧ boot ∈ (after fenced).state.fencedBoots ∧
      (after fenced).step config recover = some (after (fenced ++ [recover]), answer) ∧
      (after (fenced ++ [recover])).step config register = some (e₃, .result result) ∧
      result.accepted = true := by
  intro fenced recover
  obtain ⟨answer, hrecover⟩ := step_after fenced recover (by decide +kernel)
  refine ⟨_, answer, _, reachable_after (by decide +kernel), ?_, hrecover, rfl, by decide +kernel⟩
  exact Std.ExtTreeSet.contains_iff_mem.1 (by decide +kernel)

end AdaptiveRouting
