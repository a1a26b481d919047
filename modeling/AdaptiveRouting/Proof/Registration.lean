import AdaptiveRouting.Lib.Inverse
import AdaptiveRouting.Proof.Fencing

/-!
# Registrations

The live boots are the inverse of the registrations, and no registration holds a fenced boot
(`Enrolled`). An accepted registration of a boot that another publisher holds ends this
(`Usurps`); every other step keeps it (`Enrolled.step_iff`).
-/

namespace AdaptiveRouting

open Guard Engine Indexes

/-! ## Tables as functions -/

section
variable {d : IdDomain} {β : Type} {table : Std.ExtTreeMap (StrongId d) β} {key : StrongId d}

theorem insert_update (value : β) : (fun key' => (table.insert key value)[key']?) =
    Function.update (fun key' => table[key']?) key (some value) := by
  funext key'
  by_cases hkey : key' = key
  · subst hkey
    rw [Std.ExtTreeMap.getElem?_insert_self, Function.update_self]
  · rw [Function.update_of_ne hkey, get_insert_ne (Ne.symm hkey)]

/-- A key's value is written again exactly when the table stays. -/
theorem insert_eq_iff {value value' : β} (h : table[key]? = some value) :
    table.insert key value' = table ↔ value' = value := by
  constructor
  · intro hsame
    rw [← hsame, Std.ExtTreeMap.getElem?_insert_self] at h
    exact Option.some.inj h
  · intro hvalue
    subst hvalue
    refine Std.ExtTreeMap.ext_getElem? fun {key'} => ?_
    by_cases hkey : key = key'
    · subst hkey
      rw [Std.ExtTreeMap.getElem?_insert_self, h]
    · rw [get_insert_ne hkey]

theorem insert_erase {value : β} : (table.erase key).insert key value = table.insert key value := by
  refine Std.ExtTreeMap.ext_getElem? fun {key'} => ?_
  by_cases hkey : key = key'
  · subst hkey
    rw [Std.ExtTreeMap.getElem?_insert_self, Std.ExtTreeMap.getElem?_insert_self]
  · rw [get_insert_ne hkey, get_insert_ne hkey, Std.ExtTreeMap.getElem?_erase,
      if_neg fun hc => hkey (Std.LawfulEqCmp.eq_of_compare hc)]

theorem erase_update : (fun key' => (table.erase key)[key']?) =
    Function.update (fun key' => table[key']?) key none := by
  funext key'
  by_cases hkey : key' = key
  · subst hkey
    rw [Std.ExtTreeMap.getElem?_erase_self, Function.update_self]
  · rw [Function.update_of_ne hkey, Std.ExtTreeMap.getElem?_erase,
      if_neg fun hc => hkey (Std.LawfulEqCmp.eq_of_compare hc).symm]

end

/-! ## The invariant -/

/-- The live boots find exactly the publishers that are registered with them. -/
def State.Listed (s : State) : Prop :=
  Inverse (fun (boot : WorkerBootId) => s.liveBoots[boot]?)
    (fun (publisher : PublisherId) => s.registrations[publisher]?) PublisherRegistration.workerBoot

/-- The live boots are the inverse of the registrations, which hold no fenced boot. -/
structure Enrolled (s : State) : Prop where
  listed : s.Listed
  unfenced : ∀ (publisher : PublisherId) (registration : PublisherRegistration),
    s.registrations[publisher]? = some registration → registration.workerBoot ∉ s.fencedBoots

/-- An operation registers a publisher with a boot that another publisher is registered with. -/
inductive Usurps (limits : Limits) (s : State) : Op → Prop
  | register {publisher holder : PublisherId} {boot : WorkerBootId} {scope : AuthorityScope}
      {session : SessionId} {registration : PublisherRegistration}
      (checks : s.registerChecks limits publisher boot scope session = .ok ())
      (held : s.registrations[holder]? = some registration) (shared : registration.workerBoot = boot)
      (other : holder ≠ publisher) :
      Usurps limits s (.registerPublisher publisher boot scope session)

theorem registerChecks_unfenced {s : State} {limits : Limits} {publisher : PublisherId}
    {boot : WorkerBootId} {scope : AuthorityScope} {session : SessionId}
    (h : s.registerChecks limits publisher boot scope session = .ok ()) : boot ∉ s.fencedBoots := by
  unfold State.registerChecks at h
  obtain ⟨-, h⟩ := seq_ok h
  obtain ⟨-, h⟩ := seq_ok h
  obtain ⟨hunfenced, -⟩ := seq_ok h
  intro hmem
  rw [Std.ExtTreeSet.contains_iff_mem.2 hmem] at hunfenced
  cases hunfenced

namespace Enrolled

variable {s : State}

theorem congr {s' : State} (h : Enrolled s) (hregistrations : s'.registrations = s.registrations)
    (hboots : s'.liveBoots = s.liveBoots) (hfenced : s'.fencedBoots = s.fencedBoots) :
    Enrolled s' := by
  refine ⟨?_, fun publisher registration hregistered => ?_⟩
  · unfold State.Listed
    rw [hregistrations, hboots]
    exact h.listed
  · rw [hregistrations] at hregistered
    rw [hfenced]
    exact h.unfenced publisher registration hregistered

theorem of_empty (hregistrations : s.registrations = {}) (hboots : s.liveBoots = {}) : Enrolled s := by
  refine ⟨?_, fun publisher registration hregistered => ?_⟩
  · unfold State.Listed
    rw [hregistrations, hboots]
    simpa using Inverse.empty
  · rw [hregistrations] at hregistered
    simp at hregistered

/-- No two publishers are registered with one boot. -/
theorem unique (h : Enrolled s) {publisher other : PublisherId}
    {registration registration' : PublisherRegistration}
    (hregistered : s.registrations[publisher]? = some registration)
    (hother : s.registrations[other]? = some registration')
    (hshared : registration.workerBoot = registration'.workerBoot) : publisher = other :=
  h.listed.eq_of_label hregistered hother hshared

/-- Fencing a publisher's boot and dropping its registration. -/
theorem drop (h : Enrolled s) {publisher : PublisherId} {registration : PublisherRegistration}
    (hregistered : s.registrations[publisher]? = some registration) (cause : Text) :
    Enrolled { s.fence publisher registration.workerBoot cause with
      registrations := s.registrations.erase publisher } := by
  refine ⟨?_, fun other registration' hother hfenced => ?_⟩
  · show Inverse (fun boot => (s.liveBoots.erase registration.workerBoot)[boot]?)
      (fun other => (s.registrations.erase publisher)[other]?) _
    rw [erase_update, erase_update]
    exact h.listed.remove hregistered
  · change (s.registrations.erase publisher)[other]? = some registration' at hother
    rw [Std.ExtTreeMap.getElem?_erase] at hother
    split at hother
    · cases hother
    · rename_i hne
      rcases mem_insert_set.1 hfenced with hshared | hfenced
      · exact hne (by rw [h.unique hregistered hother hshared]; exact Std.ReflCmp.compare_self)
      · exact h.unfenced other registration' hother hfenced

/-- A new registration of a boot that nobody holds. -/
theorem enroll (h : Enrolled s) {publisher : PublisherId} (registration : PublisherRegistration)
    (hnew : s.registrations[publisher]? = none)
    (hfree : ∀ (holder : PublisherId) (held : PublisherRegistration),
      s.registrations[holder]? = some held → held.workerBoot ≠ registration.workerBoot)
    (hunfenced : registration.workerBoot ∉ s.fencedBoots) :
    Enrolled { s with
      registrations := s.registrations.insert publisher registration
      liveBoots := s.liveBoots.insert registration.workerBoot publisher } := by
  have hboot : s.liveBoots[registration.workerBoot]? = none := by
    rw [Option.eq_none_iff_forall_ne_some]
    intro holder hholder
    obtain ⟨held, hheld, hshared⟩ := (h.listed _ _).1 hholder
    exact hfree holder held hheld hshared
  refine ⟨?_, fun other registration' hother => ?_⟩
  · show Inverse (fun boot => (s.liveBoots.insert registration.workerBoot publisher)[boot]?)
      (fun other => (s.registrations.insert publisher registration)[other]?) _
    rw [insert_update, insert_update]
    exact h.listed.add hnew hboot
  · change (s.registrations.insert publisher registration)[other]? = some registration' at hother
    rw [Std.ExtTreeMap.getElem?_insert] at hother
    split at hother
    · cases hother
      exact hunfenced
    · exact h.unfenced other registration' hother

/-- A registration of the same incarnation. -/
theorem refresh (h : Enrolled s) {publisher : PublisherId}
    {registration : PublisherRegistration} (registration' : PublisherRegistration)
    (hregistered : s.registrations[publisher]? = some registration)
    (hboot : registration'.workerBoot = registration.workerBoot) :
    Enrolled { s with registrations := s.registrations.insert publisher registration' } := by
  refine ⟨h.listed.relabel fun other => ?_, fun other found hother => ?_⟩
  · show ((s.registrations.insert publisher registration')[other]?).map _ = _
    by_cases hne : publisher = other
    · subst hne
      rw [Std.ExtTreeMap.getElem?_insert_self, hregistered]
      exact congrArg some hboot
    · rw [get_insert_ne hne]
  · change (s.registrations.insert publisher registration')[other]? = some found at hother
    rw [Std.ExtTreeMap.getElem?_insert] at hother
    split at hother
    · cases hother
      rw [hboot]
      exact h.unfenced publisher registration hregistered
    · exact h.unfenced other found hother

end Enrolled

/-! ## Steps -/

section
variable {limits : Limits} {s : State} {publisher : PublisherId} {boot : WorkerBootId}
  {scope : AuthorityScope} {session : SessionId}

/-- An accepted registration leaves the publisher registered with the boot, for the session. -/
theorem registerPublisher_registrations
    (h : s.registerChecks limits publisher boot scope session = .ok ()) :
    ∃ registration, registration.workerBoot = boot ∧ registration.session = session ∧
      (s.registerPublisher limits publisher boot scope session).1.registrations =
        s.registrations.insert publisher registration := by
  unfold State.registerPublisher
  rw [h]
  dsimp only
  cases hexisting : s.registrations[publisher]? with
  | none => exact ⟨_, rfl, rfl, rfl⟩
  | some existing =>
    dsimp only
    split
    · rename_i hsame
      exact ⟨{ existing with
        scope, session, epoch := s.epoch, authorityGeneration := s.authorityGeneration }, hsame, rfl,
        rfl⟩
    · exact ⟨_, rfl, rfl, rfl⟩

theorem registerPublisher_enrolled (h : Enrolled s)
    (hop : ¬ Usurps limits s (.registerPublisher publisher boot scope session)) :
    Enrolled (s.registerPublisher limits publisher boot scope session).1 := by
  unfold State.registerPublisher
  cases hchecks : s.registerChecks limits publisher boot scope session with
  | error answer => exact h
  | ok u =>
    dsimp only
    have hunfenced := registerChecks_unfenced hchecks
    have hfree (holder : PublisherId) (held : PublisherRegistration)
        (hheld : s.registrations[holder]? = some held) (hother : holder ≠ publisher) :
        held.workerBoot ≠ boot := fun hshared => hop (.register hchecks hheld hshared hother)
    cases hexisting : s.registrations[publisher]? with
    | none =>
      refine h.enroll ⟨publisher, boot, scope, _, _, session⟩ hexisting
        (fun holder held hheld => hfree holder held hheld ?_) hunfenced
      rintro rfl
      rw [hexisting] at hheld
      cases hheld
    | some existing =>
      dsimp only
      split
      · exact h.refresh { existing with
          scope, session, epoch := s.epoch, authorityGeneration := s.authorityGeneration } hexisting rfl
      · rename_i hreborn
        -- the fence drops the old incarnation, and the new one is registered as a new publisher
        have henrolled := (h.drop hexisting "REINCARNATION").enroll
          ⟨publisher, boot, scope, s.epoch, s.authorityGeneration, session⟩
          Std.ExtTreeMap.getElem?_erase_self (fun holder held hheld => ?_) fun hfenced => ?_
        · exact henrolled.congr insert_erase.symm rfl rfl
        · change (s.registrations.erase publisher)[holder]? = some held at hheld
          rw [Std.ExtTreeMap.getElem?_erase] at hheld
          split at hheld
          · cases hheld
          · rename_i hne
            refine hfree holder held hheld fun heq => hne ?_
            rw [heq]
            exact Std.ReflCmp.compare_self
        · rcases mem_insert_set.1 hfenced with hsame | hfenced
          · exact hreborn hsame
          · exact hunfenced hfenced

theorem fencePublisher_enrolled (h : Enrolled s) (cause : Text) :
    Enrolled (s.fencePublisher publisher boot cause).1 := by
  unfold State.fencePublisher
  cases hexisting : s.registrations[publisher]? with
  | none => exact h
  | some existing =>
    dsimp only
    by_cases hboot : existing.workerBoot = boot
    · subst hboot
      simp only [ne_eq, not_true_eq_false, ↓reduceIte]
      exact h.drop hexisting _
    · simp only [hboot, ne_eq, not_false_eq_true, ↓reduceIte]
      exact h

theorem advanceEpoch_enrolled (h : Enrolled s) (reason : Text) :
    Enrolled (s.advanceEpoch reason).1 := by
  unfold State.advanceEpoch
  split
  · exact h
  · dsimp only
    split
    · exact h.congr rfl rfl rfl
    · exact .of_empty rfl rfl

end

section
variable {config : EngineConfig} {e e' : Engine} {op : Op} {answer : Answer}

theorem Enrolled.step (hs : Enrolled e.state) (hop : ¬ Usurps config.limits e.state op)
    (h : e.step config op = some (e', answer)) : Enrolled e'.state := by
  by_cases hgoverns : op.governs = true
  · cases op with
    | registerPublisher publisher boot scope session =>
      cases h
      exact registerPublisher_enrolled hs hop
    | fencePublisher publisher boot cause =>
      cases h
      exact fencePublisher_enrolled hs cause
    | advanceEpoch reason =>
      cases h
      exact advanceEpoch_enrolled hs reason
    | decodeStore now decoded origin =>
      cases h
      cases decoded with
      | error refusal => exact hs
      | ok durable =>
        change Enrolled (e.state.applyDurable config now durable origin).1
        rcases applyDurable_cases e.state config now durable origin with
          ⟨-, hsame⟩ | ⟨-, epoch, authority, -, -, hrecovered⟩
        · rw [hsame]
          exact hs
        · have hstanding := recoveredState_standing config now durable epoch authority
          refine .of_empty ?_ ?_
          · exact (congrArg _ hrecovered).trans (congrArg State.Standing.registrations hstanding)
          · exact (congrArg _ hrecovered).trans (congrArg State.Standing.liveBoots hstanding)
    | _ => cases hgoverns
  · have hsame := step_standing h (by simpa using hgoverns)
    exact hs.congr (State.registrations_of_standing hsame)
      (congrArg State.Standing.liveBoots hsame) (State.fencedBoots_of_standing hsame)

/-- A registration of a boot that another publisher holds leaves both registered with it. -/
theorem Usurps.shares (hop : Usurps config.limits e.state op)
    (h : e.step config op = some (e', answer)) :
    ∃ (publisher other : PublisherId) (registration registration' : PublisherRegistration),
      e'.state.registrations[publisher]? = some registration ∧
      e'.state.registrations[other]? = some registration' ∧
      registration.workerBoot = registration'.workerBoot ∧ publisher ≠ other := by
  cases hop with
  | register checks held shared other =>
    cases h
    obtain ⟨registration, hboot, -, hinserted⟩ := registerPublisher_registrations checks
    refine ⟨_, _, _, registration, ?_, ?_, shared.trans hboot.symm, other⟩
    · show (State.registerPublisher ..).1.registrations[_]? = _
      rw [hinserted, get_insert_ne (Ne.symm other), held]
    · show (State.registerPublisher ..).1.registrations[_]? = _
      rw [hinserted, Std.ExtTreeMap.getElem?_insert_self]

/-- A step ends the invariant exactly when it usurps a boot. -/
theorem Enrolled.step_iff (hs : Enrolled e.state) (h : e.step config op = some (e', answer)) :
    Enrolled e'.state ↔ ¬ Usurps config.limits e.state op := by
  refine ⟨fun hs' hop => ?_, fun hop => hs.step hop h⟩
  obtain ⟨publisher, other, _, _, hfirst, hsecond, hshared, hne⟩ := hop.shares h
  exact hne (hs'.unique hfirst hsecond hshared)

end

/-- In every run in which no publisher registers with a boot another publisher holds, the live boots
are the inverse of the registrations, no two publishers share a boot, and no registration holds a
fenced one. From there the first registration that does so ends it. -/
theorem registrations_are_exclusive {config : EngineConfig} {nonce : Text} {e : Engine}
    (hrun : RunUnder config (fun e op => ¬ Usurps config.limits e.state op)
      (Engine.start config nonce) e) :
    (∀ (boot : WorkerBootId) (publisher : PublisherId), e.state.liveBoots[boot]? = some publisher ↔
      ∃ registration, e.state.registrations[publisher]? = some registration ∧
        registration.workerBoot = boot) ∧
    (∀ (publisher other : PublisherId) (registration registration' : PublisherRegistration),
      e.state.registrations[publisher]? = some registration →
      e.state.registrations[other]? = some registration' →
      registration.workerBoot = registration'.workerBoot → publisher = other) ∧
    (∀ (publisher : PublisherId) (registration : PublisherRegistration),
      e.state.registrations[publisher]? = some registration →
      registration.workerBoot ∉ e.state.fencedBoots) ∧
    (∀ (e' : Engine) (op : Op) (answer : Answer), e.step config op = some (e', answer) →
      (Enrolled e'.state ↔ ¬ Usurps config.limits e.state op)) := by
  have henrolled : Enrolled e.state :=
    hrun.inv (I := fun e => Enrolled e.state) (fun _ _ _ _ hop hs hstep => hs.step hop hstep)
      (.of_empty rfl rfl)
  exact ⟨henrolled.listed, fun _ _ _ _ hfirst hsecond => henrolled.unique hfirst hsecond,
    henrolled.unfenced, fun _ _ _ hstep => henrolled.step_iff hstep⟩

open Scenario in
/-- One publisher registers, and holds the only live boot. -/
theorem registered_publisher_is_alone :
    (after [register]).state.liveBoots[boot]? = some publisher := by
  have hstart : ¬ Usurps config.limits engine.state register := by
    intro hop
    cases hop with
    | register _ held => simp [engine, Engine.start] at held
  obtain ⟨answer, hstep⟩ := step_after [] register (by decide +kernel)
  obtain ⟨hlisted, -⟩ := @registrations_are_exclusive config "n" _ (.single hstart hstep)
  exact (hlisted boot publisher).2
    ⟨{ publisher, workerBoot := boot, scope, epoch := ⟨1⟩, authorityGeneration := ⟨1⟩, session },
      by decide +kernel, rfl⟩

open Scenario in
/-- Another publisher registers with the boot of the first: both are registered with it, and once the
first is fenced the other keeps a fenced boot. -/
theorem shared_boot_outlives_its_fence :
    let other : PublisherId := name "other"
    let shared : List Op := [register, .registerPublisher other boot scope session]
    let fenced : List Op := shared ++ [.fencePublisher publisher boot []]
    Engine.Reachable config (after shared) ∧
      (∃ first second, (after shared).state.registrations[publisher]? = some first ∧
        (after shared).state.registrations[other]? = some second ∧
        first.workerBoot = second.workerBoot ∧ publisher ≠ other) ∧
      Engine.Reachable config (after fenced) ∧
      (∃ registration, (after fenced).state.registrations[other]? = some registration ∧
        registration.workerBoot ∈ (after fenced).state.fencedBoots ∧
        (after fenced).state.liveBoots[registration.workerBoot]? ≠ some other) := by
  intro other shared fenced
  have hregistered {s : State} {p : PublisherId}
      (h : (s.registrations[p]?).map (·.workerBoot) = some boot) :
      ∃ registration, s.registrations[p]? = some registration ∧ registration.workerBoot = boot :=
    Option.map_eq_some_iff.1 h
  obtain ⟨first, hfirst, hboot⟩ := @hregistered (after shared).state publisher (by decide +kernel)
  obtain ⟨second, hsecond, hboot'⟩ := @hregistered (after shared).state other (by decide +kernel)
  obtain ⟨left, hleft, hlast⟩ := @hregistered (after fenced).state other (by decide +kernel)
  refine ⟨reachable_after (by decide +kernel),
    ⟨first, second, hfirst, hsecond, hboot.trans hboot'.symm, by decide +kernel⟩,
    reachable_after (by decide +kernel), ⟨left, hleft, ?_, ?_⟩⟩
  · rw [hlast]
    exact Std.ExtTreeSet.contains_iff_mem.1 (by decide +kernel)
  · rw [hlast]
    decide +kernel

end AdaptiveRouting
