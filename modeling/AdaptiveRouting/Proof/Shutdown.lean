import AdaptiveRouting.Lib.Ending
import AdaptiveRouting.Proof.Server

/-!
# Starting and stopping the server

A call of `start` or `stop` waits for threads that have only so much left to do when the running flag is
down, and that go on by themselves but for the response a session may be writing (`calls_wait_for_writes`).
The measure counts the steps left to each thread, and charges the accepting one for the session it may
still start.
-/

namespace AdaptiveRouting

open Runs Slots

/-- How many steps are left to a thread. -/
def SessionThread.effort (c : SessionThread) : Nat :=
  match c.thread with
  | some .answering => 4
  | some .serving => 3
  | some .closed => 2
  | some .finished => 1
  | some .exited | none => 0

/-- How many steps are left to the accepting thread of a server that is not running, with those of the
session it may still start. -/
def AcceptStage.effort (s : Server) : AcceptStage → Nat
  | .ended => 0
  | .polling => 1
  | .storing _ | .withdrawing _ => 2
  | .spawning _ => 6
  | .counting _ => 7
  | .accepted => 9
  | .accepting => 10
  | .joining finished => 11 + finished.length
  | .reaping kept finished => 12 + finished.length + 2 * (s.sessions.length - kept)

def OwnerStage.effort (s : Server) : OwnerStage → Nat
  | .idle => 0
  | .launching => 2
  | .closing => 4 + s.sessions.length
  | .joiningAcceptor => 3 + s.sessions.length
  | .collecting => 2 + s.sessions.length
  | .joining sessions => 1 + sessions.length

namespace Server

variable {maxSessions : Nat} {s s' : Server}

/-! ## Every step counts -/

/-- How many steps are left at most until the owner's call returns. -/
def effort (s : Server) : Nat :=
  weigh SessionThread.effort s.made + s.acceptor.elim 0 (AcceptStage.effort s) + s.owner.effort s

section
variable {place : Nat} {c d : SessionThread} {stage stage' : AcceptStage}

theorem weigh_set_same (hc : s.made[place]? = some c) (hsame : d.thread = c.thread) :
    weigh SessionThread.effort (s.made.set place d) = weigh SessionThread.effort s.made := by
  have hset := weigh_set SessionThread.effort hc d
  have heffort : d.effort = c.effort := by
    unfold SessionThread.effort
    rw [hsame]
  omega

theorem join_effort (hjoin : s.join place = some s') :
    weigh SessionThread.effort s'.made = weigh SessionThread.effort s.made ∧
      s' = { s with made := s'.made } := by
  unfold join at hjoin
  obtain ⟨c, hc, hjoin⟩ := Option.bind_eq_some_iff.1 hjoin
  split at hjoin
  · split at hjoin
    · cases hjoin
      exact ⟨weigh_set_same hc rfl, rfl⟩
    · cases hjoin
  · cases hjoin
    exact ⟨rfl, rfl⟩

theorem close_effort (s : Server) (place : Nat) :
    weigh SessionThread.effort (s.close place).made = weigh SessionThread.effort s.made := by
  unfold close
  cases hc : s.made[place]? with
  | none =>
    rw [List.modify_eq_set_getElem?, hc]
    rfl
  | some c =>
    show weigh SessionThread.effort (s.made.modify place _) = _
    rw [modify_eq_set hc]
    exact weigh_set_same hc rfl

/-- A session whose thread comes further has less left to do. -/
theorem effort_set (hc : s.made[place]? = some c) (hless : d.effort < c.effort) (live : Nat) :
    effort { s with made := s.made.set place d, liveSessions := live } < s.effort := by
  have hset := weigh_set SessionThread.effort hc d
  show weigh SessionThread.effort (s.made.set place d) + _ + _ < _ + _ + _
  exact Nat.add_lt_add_right (Nat.add_lt_add_right (by omega) _) _

/-- A step of a session when the server is not running, or has no session. -/
theorem session_effort {granted : Bool} (hidle : s.running = true → c.Gone)
    (hc : s.made[place]? = some c) (hstep : s.sessionStep place granted c = some s') :
    s'.effort < s.effort := by
  have hless {stage stage' : SessionStage} {socket : Bool} (hthread : c.thread = some stage)
      (hstages : SessionThread.effort { c with socket, thread := some stage' } <
        SessionThread.effort { c with thread := some stage }) (live : Nat) :
      effort { s with
        made := s.made.set place { c with socket, thread := some stage' }, liveSessions := live } <
        s.effort := by
    refine effort_set hc ?_ live
    unfold SessionThread.effort at hstages ⊢
    rwa [hthread]
  unfold sessionStep at hstep
  split at hstep
  · rename_i hthread
    split at hstep
    · split at hstep
      · rename_i hrunning
        rcases (hidle hrunning).thread with hgone | hgone <;>
        · rw [hthread] at hgone
          cases hgone
      · cases hstep
    · cases hstep
      exact hless hthread (by simp [SessionThread.effort]) _
  · rename_i hthread
    split at hstep
    · cases hstep
      exact hless hthread (by simp [SessionThread.effort]) _
    · cases hstep
      exact hless hthread (by simp [SessionThread.effort]) _
  · rename_i hthread
    cases hstep
    exact hless hthread (by simp [SessionThread.effort]) _
  · rename_i hthread
    cases hstep
    exact hless hthread (by simp [SessionThread.effort]) _
  · cases hstep
  · cases hstep

/-- A step of the accepting thread when the server is not running. -/
theorem accept_effort {granted : Bool} (h : s.Inv maxSessions) (hrunning : s.running = false)
    (howner : s.owner = .closing ∨ s.owner = .joiningAcceptor) (hstage : s.acceptor = some stage)
    (hstep : s.acceptStep maxSessions granted stage = some s') : s'.effort < s.effort := by
  have hless (hmade : weigh SessionThread.effort s'.made + (s'.acceptor.elim 0 (AcceptStage.effort s')) +
      s'.sessions.length < weigh SessionThread.effort s.made + stage.effort s + s.sessions.length)
      (hsame : s'.owner = s.owner) : s'.effort < s.effort := by
    unfold effort
    rw [hstage, hsame, Option.elim_some]
    rcases howner with howner | howner <;> rw [howner] <;> simp only [OwnerStage.effort] <;> omega
  cases stage with
  | polling =>
    rw [acceptStep, hrunning] at hstep
    cases hstep
    exact hless (by simp [AcceptStage.effort]) rfl
  | reaping kept finished =>
    unfold acceptStep at hstep
    dsimp only at hstep
    split at hstep
    · cases hstep
      refine hless ?_ rfl
      simp only [Option.elim_some, AcceptStage.effort]
      omega
    · rename_i place hplace
      obtain ⟨c, hc, hstep⟩ := Option.map_eq_some_iff.1 hstep
      have hlt := (List.getElem?_eq_some_iff.1 hplace).1
      split at hstep
      · subst hstep
        refine hless ?_ rfl
        simp only [Option.elim_some, AcceptStage.effort, List.length_append, List.length_singleton,
          List.length_eraseIdx_of_lt hlt]
        omega
      · subst hstep
        refine hless ?_ rfl
        simp only [Option.elim_some, AcceptStage.effort]
        omega
  | joining finished =>
    cases finished with
    | nil =>
      cases hstep
      exact hless (by simp [AcceptStage.effort]) rfl
    | cons place rest =>
      obtain ⟨s₁, hjoin, rfl⟩ := Option.map_eq_some_iff.1 hstep
      obtain ⟨hmade, heq⟩ := join_effort hjoin
      refine hless ?_ (by rw [heq])
      have hsessions : s₁.sessions = s.sessions := by rw [heq]
      simp only [Option.elim_some, AcceptStage.effort, List.length_cons, hmade, hsessions]
      omega
  | accepting =>
    cases hstep
    refine hless ?_ rfl
    split <;> simp [AcceptStage.effort]
  | accepted =>
    unfold acceptStep at hstep
    dsimp only at hstep
    split at hstep
    · cases hstep
      exact hless (by simp [AcceptStage.effort]) rfl
    · cases hstep
      refine hless ?_ rfl
      have hnew : SessionThread.effort { index := s.sessionCounter + 1 } = 0 := rfl
      simp only [Option.elim_some, AcceptStage.effort, weigh_snoc, List.length_append,
        List.length_singleton]
      omega
  | counting place =>
    cases hstep
    exact hless (by simp [AcceptStage.effort]) rfl
  | spawning place =>
    obtain ⟨-, c, hc, hthread, -⟩ := h.newcomer _ place hstage rfl
    have hnone : c.thread = none := by simpa using hthread
    have hset := weigh_set SessionThread.effort hc { c with thread := some .serving }
    have hold : c.effort = 0 := by simp [SessionThread.effort, hnone]
    have hnew : SessionThread.effort { c with thread := some .serving } = 3 := rfl
    unfold acceptStep at hstep
    dsimp only at hstep
    split at hstep
    · cases hstep
      refine hless ?_ rfl
      simp only [Option.elim_some, AcceptStage.effort, modify_eq_set hc]
      omega
    · cases hstep
      exact hless (by simp [AcceptStage.effort]) rfl
  | storing place =>
    obtain ⟨-, c, hc, -, -⟩ := h.newcomer _ place hstage rfl
    cases hstep
    refine hless ?_ rfl
    have hsame : weigh SessionThread.effort (s.made.set place { c with joinable := true }) =
        weigh SessionThread.effort s.made := weigh_set_same hc rfl
    simp only [Option.elim_some, AcceptStage.effort, modify_eq_set hc]
    omega
  | withdrawing place =>
    cases hstep
    refine hless ?_ rfl
    have hclosed := close_effort { s with sessions := s.sessions.filter (· != place) } place
    have hfilter := List.length_filter_le (· != place) s.sessions
    simp only [Option.elim_some, AcceptStage.effort, hclosed]
    show _ + (s.sessions.filter (· != place)).length < _
    omega
  | ended => cases hstep

/-- A step of `stop`. -/
theorem stop_effort {returned : Bool} (h : s.Inv maxSessions)
    (hstep : s.stopStep s.owner = some (s', returned)) : s'.effort < s.effort := by
  have howned := h.owned
  unfold Owned at howned
  unfold effort
  cases howner : s.owner with
  | idle | launching =>
    rw [howner] at hstep
    cases hstep
  | closing =>
    rw [howner] at hstep
    cases hstep
    simp only [OwnerStage.effort]
    exact Nat.add_lt_add_left (by omega) _
  | joiningAcceptor =>
    rw [howner] at hstep
    unfold stopStep at hstep
    dsimp only at hstep
    split at hstep
    · cases hstep
      simp only [OwnerStage.effort, Option.elim_none]
      omega
    · cases hstep
      simp only [OwnerStage.effort, Option.elim_none]
      omega
    · cases hstep
  | collecting =>
    rw [howner] at hstep howned
    cases hstep
    rw [howned.2]
    simp only [OwnerStage.effort, Option.elim_none]
    omega
  | joining sessions =>
    rw [howner] at hstep howned
    cases sessions with
    | nil =>
      cases hstep
      rw [howned.2]
      simp only [OwnerStage.effort, Option.elim_none, List.length_nil]
      omega
    | cons place rest =>
      obtain ⟨s₁, hjoin, heq⟩ := Option.map_eq_some_iff.1 hstep
      obtain rfl : _ = s' := congrArg Prod.fst heq
      obtain ⟨hmade, hs₁⟩ := join_effort hjoin
      have hacceptor : (s₁.close place).acceptor = none := by
        rw [hs₁]
        exact howned.2
      simp only [OwnerStage.effort, close_effort, hmade, hacceptor, howned.2, Option.elim_none,
        List.length_cons]
      omega

/-! ## What a call waits for -/

/-- The thread of a session that is still to be joined is writing a response. -/
def Awaits (s : Server) : Prop :=
  ∃ place ∈ s.held, ∃ c, s.made[place]? = some c ∧ c.thread = some .answering

/-- A step that a thread takes by itself: it is no end of a write, and a session leaves the loop of
`run_session` because the running flag is down. -/
def Own (s : Server) : ServerEvent → Prop
  | .session place _ => ∃ c, s.made[place]? = some c ∧ c.thread ≠ some .answering ∧
      (c.thread = some .serving → s.running = false)
  | _ => True

/-- A thread can go on by itself. -/
def Goes (maxSessions : Nat) (s : Server) : Prop :=
  ∃ event s' returned, s.Own event ∧ s.step maxSessions event = some (s', returned)

/-- Whoever waits for a session waits for a thread that can go on, or for the end of its write. -/
theorem join_open (h : s.Inv maxSessions) (hrunning : s.running = false) (hheld : place ∈ s.held)
    (hold : s.acceptor.bind AcceptStage.newcomer = none) :
    (∃ s', s.join place = some s') ∨ s.Awaits ∨ s.Goes maxSessions := by
  obtain ⟨c, hc, hthread, hjoinable⟩ := h.settled place hheld (by simp [hold])
  obtain ⟨stage, hstage⟩ := Option.isSome_iff_exists.1 hthread
  by_cases hexited : stage = .exited
  · refine .inl ⟨{ s with made := s.made.set place { c with joinable := false } }, ?_⟩
    unfold join
    rw [hc, Option.bind_some, if_pos hjoinable, if_pos (by rw [hstage, hexited])]
  · by_cases hanswering : stage = .answering
    · exact .inr (.inl ⟨place, hheld, c, hc, by rw [hstage, hanswering]⟩)
    · have hopen : ∃ s', s.sessionStep place false c = some s' := by
        unfold sessionStep
        rw [hstage]
        cases stage with
        | exited => exact absurd rfl hexited
        | _ => exact ⟨_, rfl⟩
      obtain ⟨s', hs'⟩ := hopen
      refine .inr (.inr ⟨.session place false, s', false, ⟨c, hc, ?_, fun _ => hrunning⟩, ?_⟩)
      · rw [hstage]
        simpa using hanswering
      · unfold Server.step
        dsimp only
        rw [hc, Option.bind_some, hs']
        rfl

theorem proceed_open (hnext : (s.stopStep s.owner).isSome = true) : s.Goes maxSessions := by
  obtain ⟨next, hnext⟩ := Option.isSome_iff_exists.1 hnext
  exact ⟨.proceed, next.1, next.2, trivial, hnext⟩

/-- The accepting thread goes on until it ends, or waits for a session. -/
theorem accept_open (h : s.Inv maxSessions) (hrunning : s.running = false)
    (hstage : s.acceptor = some stage) (hne : stage ≠ .ended) : s.Awaits ∨ s.Goes maxSessions := by
  have hgoes (hstep : (s.acceptStep maxSessions false stage).isSome = true) :
      s.Awaits ∨ s.Goes maxSessions := by
    obtain ⟨s', hs'⟩ := Option.isSome_iff_exists.1 hstep
    refine .inr ⟨.accept false, s', false, trivial, ?_⟩
    unfold Server.step
    dsimp only
    rw [hstage, Option.bind_some, hs']
    rfl
  cases stage with
  | reaping kept finished =>
    refine hgoes ?_
    unfold acceptStep
    dsimp only
    split
    · rfl
    · rename_i place hplace
      have hheld : place ∈ s.held := by
        rw [held_some hstage]
        exact List.mem_append_left _ (List.mem_append_left _ (List.mem_of_getElem? hplace))
      obtain ⟨c, hc, -⟩ := h.settled place hheld (by rw [hstage]; simp [AcceptStage.newcomer])
      rw [hc]
      rfl
  | joining finished =>
    cases finished with
    | nil => exact hgoes rfl
    | cons place rest =>
      have hheld : place ∈ s.held := by
        rw [held_some hstage]
        exact List.mem_append_left _ (List.mem_append_right _ List.mem_cons_self)
      rcases join_open h hrunning hheld (by rw [hstage]; rfl) with ⟨s', hjoin⟩ | hwaits
      · refine hgoes ?_
        unfold acceptStep
        dsimp only
        rw [hjoin]
        rfl
      · exact hwaits
  | accepted =>
    refine hgoes ?_
    unfold acceptStep
    dsimp only
    split <;> rfl
  | spawning place =>
    refine hgoes ?_
    unfold acceptStep
    dsimp only
    split <;> rfl
  | ended => exact absurd rfl hne
  | _ => exact hgoes rfl

/-- While a call is under way on a running server, no session has a thread. -/
theorem Inv.launching_gone (h : s.Inv maxSessions) (hworks : s.owner ≠ .idle)
    (hrunning : s.running = true) (hc : s.made[place]? = some c) : c.Gone := by
  have howned := h.owned
  unfold Owned at howned
  cases howner : s.owner with
  | idle => exact absurd howner hworks
  | launching =>
    rw [howner] at howned
    have hsessions : s.sessions = [] :=
      (h.unlisted howned.2).resolve_right (by rw [howner]; simp)
    refine h.gone place c hc ?_
    unfold held
    rw [hsessions, howned.2, howner]
    exact List.not_mem_nil
  | closing | joiningAcceptor =>
    rw [howner, hrunning] at howned
    cases howned
  | collecting | joining =>
    rw [howner, hrunning] at howned
    cases howned.1

/-- Every step of a thread brings a call that is under way closer to its end. -/
theorem step_effort {event : ServerEvent} {returned : Bool} (h : s.Inv maxSessions)
    (hworks : s.owner ≠ .idle) (hstep : s.step maxSessions event = some (s', returned)) :
    s'.effort < s.effort := by
  have howned := h.owned
  unfold Owned at howned
  unfold Server.step at hstep
  cases event with
  | start | stop =>
    dsimp only at hstep
    rw [if_neg hworks] at hstep
    cases hstep
  | launch granted =>
    dsimp only at hstep
    split at hstep
    · rename_i howner
      rw [howner] at howned
      obtain rfl : _ = s' := congrArg Prod.fst (Option.some.inj hstep)
      unfold effort
      rw [howned.2, howner]
      split
      · simp only [Option.elim_some, Option.elim_none, AcceptStage.effort, OwnerStage.effort]
        omega
      · simp only [Option.elim_none, OwnerStage.effort]
        omega
    · cases hstep
  | proceed => exact stop_effort h hstep
  | accept granted =>
    obtain ⟨s₁, hbind, heq⟩ := Option.map_eq_some_iff.1 hstep
    obtain rfl : s₁ = s' := congrArg Prod.fst heq
    obtain ⟨stage, hstage, haccept⟩ := Option.bind_eq_some_iff.1 hbind
    cases howner : s.owner with
    | idle => exact absurd howner hworks
    | launching | collecting | joining =>
      rw [howner, hstage] at howned
      cases howned.2
    | closing =>
      rw [howner] at howned
      exact accept_effort h howned (.inl howner) hstage haccept
    | joiningAcceptor =>
      rw [howner] at howned
      exact accept_effort h howned (.inr howner) hstage haccept
  | session place granted =>
    obtain ⟨s₁, hbind, heq⟩ := Option.map_eq_some_iff.1 hstep
    obtain rfl : s₁ = s' := congrArg Prod.fst heq
    obtain ⟨c, hc, hsession⟩ := Option.bind_eq_some_iff.1 hbind
    exact session_effort (fun hrunning => h.launching_gone hworks hrunning hc) hc hsession

/-- A call that is under way can go on, or waits for the end of a write. -/
theorem call_open (h : s.Inv maxSessions) (hworks : s.owner ≠ .idle) :
    s.Awaits ∨ s.Goes maxSessions := by
  have howned := h.owned
  unfold Owned at howned
  cases howner : s.owner with
  | idle => exact absurd howner hworks
  | launching =>
    refine .inr ⟨.launch true, { s with acceptor := some .polling, owner := .idle }, true, trivial, ?_⟩
    unfold Server.step
    dsimp only
    rw [if_pos howner, if_pos rfl]
  | closing | collecting => exact .inr (proceed_open (by rw [howner]; rfl))
  | joiningAcceptor =>
    rw [howner] at howned
    by_cases hgone : s.acceptor = none ∨ s.acceptor = some .ended
    · refine .inr (proceed_open ?_)
      rw [howner]
      unfold stopStep
      rcases hgone with hgone | hgone <;> rw [hgone] <;> rfl
    · cases hstage : s.acceptor with
      | none => exact absurd (.inl hstage) hgone
      | some stage =>
        exact accept_open h howned hstage fun hended => hgone (.inr (by rw [hstage, hended]))
  | joining sessions =>
    rw [howner] at howned
    cases sessions with
    | nil => exact .inr (proceed_open (by rw [howner]; rfl))
    | cons place rest =>
      have hheld : place ∈ s.held := by
        unfold held
        rw [howner]
        exact List.mem_append_right _ List.mem_cons_self
      rcases join_open h howned.1 hheld (by rw [howned.2]; rfl) with ⟨s', hjoin⟩ | hwaits
      · refine .inr (proceed_open ?_)
        rw [howner]
        unfold stopStep
        dsimp only
        rw [hjoin]
        rfl
      · exact hwaits

/-- A write ends when the peer or the connection lets it. -/
theorem write_ends (hwaits : s.Awaits) :
    ∃ event s' returned, s.step maxSessions event = some (s', returned) := by
  obtain ⟨place, -, c, hc, hthread⟩ := hwaits
  refine ⟨.session place false,
    { s with made := s.made.set place { c with socket := false, thread := some .closed } }, false, ?_⟩
  unfold Server.step sessionStep
  dsimp only
  rw [hc, Option.bind_some, hthread]
  rfl

/-- The server while a call of the owner is under way. -/
theorem works (maxSessions : Nat) :
    Works (step maxSessions) (Inv maxSessions) (fun s => s.owner ≠ .idle) Awaits Own effort where
  kept := fun _ _ _ _ h hstep => h.step hstep
  decreases := fun _ _ _ _ h hworks hstep => step_effort h hworks hstep
  continues := fun _ h hworks => call_open h hworks
  granted := fun _ _ _ hwaits => write_ends hwaits

end

/-- A call of the owner is under way for so many steps of all threads together at most. Until it returns
some thread can go on by itself, unless a session it has to see joined is writing a response; and when
the writes end it returns. -/
theorem calls_wait_for_writes (hrun : Run (step maxSessions) (fun _ _ => True) {} s) :
    (∀ events s', runAll (step maxSessions) s events = some s' → s.effort < events.length →
      ∃ front back t, events = front ++ back ∧ front.length ≤ s.effort ∧
        runAll (step maxSessions) s front = some t ∧ t.owner = .idle) ∧
      (s.owner ≠ .idle → s.Awaits ∨ s.Goes maxSessions) ∧
      (∃ t, Run (step maxSessions) Own s t ∧ (t.owner = .idle ∨ t.Awaits)) ∧
      ∃ events t, runAll (step maxSessions) s events = some t ∧ t.owner = .idle := by
  have h := run_inv hrun
  refine ⟨fun events s' hevents hlong => ?_, call_open h, ?_, ?_⟩
  · obtain ⟨front, back, t, heq, hshort, hfront, hidle⟩ :=
      (works maxSessions).rests_within h hevents hlong
    exact ⟨front, back, t, heq, hshort, hfront, Classical.not_not.1 hidle⟩
  · obtain ⟨t, howns, hends⟩ := (works maxSessions).rests_or_waits h
    exact ⟨t, howns, hends.imp_left Classical.not_not.1⟩
  · obtain ⟨events, t, hevents, hidle⟩ := (works maxSessions).comes_to_rest h
    exact ⟨events, t, hevents, Classical.not_not.1 hidle⟩

/-- A server that is told to stop while its session writes a response. -/
def stoppedAnswering : List ServerEvent :=
  [.start true, .launch true] ++ List.replicate 8 (.accept true) ++ [.session 0 true, .stop]

theorem stopped_while_answering : ∃ s : Server, s.owner = .closing ∧ s.liveSessions = 1 ∧
    (s.made[0]?).map (·.thread) = some (some .answering) ∧
    (∀ events s', runAll (step 1) s events = some s' → s.effort < events.length →
      ∃ front back t, events = front ++ back ∧ front.length ≤ s.effort ∧
        runAll (step 1) s front = some t ∧ t.owner = .idle) ∧
      (s.owner ≠ .idle → s.Awaits ∨ s.Goes 1) ∧
      (∃ t, Run (step 1) Own s t ∧ (t.owner = .idle ∨ t.Awaits)) ∧
      ∃ events t, runAll (step 1) s events = some t ∧ t.owner = .idle := by
  obtain ⟨s, hs, hstops⟩ := exists_run_of_runAll (show ((runAll (step 1) {} stoppedAnswering).any
    fun s => s.owner == .closing && (s.liveSessions == 1 &&
      (s.made[0]?).map (·.thread) == some (some .answering))) = true by decide)
  simp only [Bool.and_eq_true, beq_iff_eq] at hstops
  exact ⟨s, hstops.1, hstops.2.1, hstops.2.2, calls_wait_for_writes (runAll_run hs)⟩

end Server

end AdaptiveRouting
