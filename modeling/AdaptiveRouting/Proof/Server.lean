import AdaptiveRouting.Lib.Runs
import AdaptiveRouting.Lib.Slots
import AdaptiveRouting.Server

/-!
# The threads of the server

However the threads of the server take turns, no more sessions are live than the limit allows, no thread
is started without being joined, and a server that stopped has no thread and no open socket left
(`threads_accounted`).
-/

namespace AdaptiveRouting

open Runs Slots

/-- A thread that was started and is counted as live. -/
def SessionThread.live (c : SessionThread) : Nat :=
  match c.thread with
  | some .serving | some .answering | some .closed | some .finished => 1
  | some .exited | none => 0

/-- A thread that was started and is not flagged as finished. -/
def SessionThread.unfinished (c : SessionThread) : Nat :=
  match c.thread with
  | some .serving | some .answering | some .closed => 1
  | _ => 0

/-- The session may have its socket open: no thread was started yet, or the thread is in
`run_session`. -/
def SessionThread.Connected (c : SessionThread) : Prop :=
  c.thread = none ∨ c.thread = some .serving ∨ c.thread = some .answering

/-- Nothing is left of the session: no thread, none to be joined, no open socket. -/
structure SessionThread.Gone (c : SessionThread) : Prop where
  thread : c.thread = none ∨ c.thread = some .exited
  joined : c.joinable = false
  socket : c.socket = false

namespace AcceptStage

/-- The sessions the accepting thread is going to join. -/
def held : AcceptStage → List Nat
  | .reaping _ finished | .joining finished => finished
  | _ => []

/-- The session it is making. -/
def newcomer : AcceptStage → Option Nat
  | .counting place | .spawning place | .storing place | .withdrawing place => some place
  | _ => none

def counted : AcceptStage → Nat
  | .spawning _ => 1
  | _ => 0

def reserved : AcceptStage → Nat
  | .counting _ => 1
  | _ => 0

/-- How many sessions may be listed. -/
def Room (maxSessions : Nat) (s : Server) : AcceptStage → Prop
  | .reaping kept _ => kept + weighAt SessionThread.unfinished s.made (s.sessions.drop kept) ≤ maxSessions
  | .joining _ | .accepting | .accepted => s.sessions.length ≤ maxSessions
  | _ => True

end AcceptStage

theorem AcceptStage.uncounted {stage : AcceptStage} (h : stage.newcomer = none) :
    stage.counted = 0 ∧ stage.reserved = 0 := by
  cases stage <;> first | exact ⟨rfl, rfl⟩ | cases h

theorem AcceptStage.held_of_newcomer {stage : AcceptStage} {place : Nat}
    (h : stage.newcomer = some place) : stage.held = [] := by
  cases stage <;> first | rfl | cases h

def OwnerStage.held : OwnerStage → List Nat
  | .joining sessions => sessions
  | _ => []

/-! ## What a run keeps -/

namespace Server

/-- The sessions that are listed or about to be joined. -/
def held (s : Server) : List Nat :=
  s.sessions ++ s.acceptor.elim [] AcceptStage.held ++ s.owner.held

/-- What the owner's stage says of the running flag and of the accepting thread. -/
def Owned (s : Server) : Prop :=
  match s.owner with
  | .idle => s.running = s.acceptor.isSome
  | .launching => s.running = true ∧ s.acceptor = none
  | .closing | .joiningAcceptor => s.running = false
  | .collecting | .joining _ => s.running = false ∧ s.acceptor = none

/-- What a run keeps. -/
structure Inv (maxSessions : Nat) (s : Server) : Prop where
  live : s.liveSessions = weigh SessionThread.live s.made + s.acceptor.elim 0 AcceptStage.counted
  bounded : s.liveSessions + s.acceptor.elim 0 AcceptStage.reserved ≤ maxSessions
  listed : s.sessions.length ≤ maxSessions + 1
  room : ∀ stage, s.acceptor = some stage → stage.Room maxSessions s
  counter : s.sessionCounter = s.made.length
  numbered : ∀ (i : Nat) (c : SessionThread), s.made[i]? = some c → c.index = i + 1
  distinct : s.held.Nodup
  settled : ∀ i ∈ s.held, s.acceptor.bind AcceptStage.newcomer ≠ some i →
    ∃ c, s.made[i]? = some c ∧ c.thread.isSome = true ∧ c.joinable = true
  newcomer : ∀ stage i, s.acceptor = some stage → stage.newcomer = some i → i ∈ s.sessions ∧
    ∃ c, s.made[i]? = some c ∧ c.thread.isSome = decide (stage = .storing i) ∧ c.joinable = false
  gone : ∀ (i : Nat) (c : SessionThread), s.made[i]? = some c → i ∉ s.held → c.Gone
  sockets : ∀ (i : Nat) (c : SessionThread), s.made[i]? = some c → c.socket = true →
    c.Connected
  owned : s.Owned
  unlisted : s.acceptor = none → s.sessions = [] ∨ s.owner = .collecting

/-- What a user of the server relies on. -/
structure Accounted (maxSessions : Nat) (s : Server) : Prop where
  /-- No more threads serve than are counted, and no more are counted than the limit allows. -/
  live : weigh SessionThread.live s.made ≤ s.liveSessions ∧ s.liveSessions ≤ maxSessions
  listed : s.sessions.length ≤ maxSessions + 1
  /-- Sessions are numbered in the order they were made. -/
  numbered : ∀ (i : Nat) (c : SessionThread), s.made[i]? = some c → c.index = i + 1
  /-- A session that is dropped left nothing behind. -/
  dropped : ∀ (i : Nat) (c : SessionThread), s.made[i]? = some c → i ∉ s.held → c.Gone
  /-- A thread handle is overwritten only when there is none to be joined. -/
  launches : s.owner = .launching → s.acceptor = none
  stopped : s.owner = .idle → s.running = false → s.acceptor = none ∧ s.sessions = [] ∧
    s.liveSessions = 0 ∧ ∀ c ∈ s.made, c.Gone

variable {maxSessions : Nat} {s s' : Server}

theorem Inv.accounted (h : Inv maxSessions s) : s.Accounted maxSessions where
  live := ⟨by rw [h.live]; exact Nat.le_add_right _ _, Nat.le_trans (Nat.le_add_right _ _) h.bounded⟩
  listed := h.listed
  numbered := h.numbered
  dropped := h.gone
  launches := by
    intro howner
    have howned := h.owned
    unfold Owned at howned
    rw [howner] at howned
    exact howned.2
  stopped := by
    intro howner hrunning
    have howned := h.owned
    unfold Owned at howned
    rw [howner] at howned
    have hnone : s.acceptor = none := by
      have hisSome := howned.symm.trans hrunning
      simpa using hisSome
    have hsessions : s.sessions = [] :=
      (h.unlisted hnone).resolve_right (by rw [howner]; simp)
    have hheld : s.held = [] := by
      unfold held
      rw [hsessions, hnone, howner]
      rfl
    have hgone : ∀ c ∈ s.made, c.Gone := by
      intro c hc
      obtain ⟨i, hi⟩ := List.getElem?_of_mem hc
      exact h.gone i c hi (by rw [hheld]; exact List.not_mem_nil)
    refine ⟨hnone, hsessions, ?_, hgone⟩
    rw [h.live, hnone, Option.elim_none, Nat.add_zero]
    refine weigh_eq_zero fun c hc => ?_
    unfold SessionThread.live
    rcases (hgone c hc).thread with hthread | hthread <;> rw [hthread]

theorem start_inv (maxSessions : Nat) : Inv maxSessions {} where
  live := rfl
  bounded := Nat.zero_le _
  listed := Nat.zero_le _
  room := fun _ h => by cases h
  counter := rfl
  numbered := fun _ _ h => by simp at h
  distinct := .nil
  settled := fun _ h => by cases h
  newcomer := fun _ _ h => by cases h
  gone := fun _ _ h => by simp at h
  sockets := fun _ _ h => by simp at h
  owned := rfl
  unlisted := fun _ => .inl rfl

/-! ## The threads of the sessions -/

section
variable {place : Nat} {c d : SessionThread} {stage stage' : AcceptStage}

theorem Room.of_le (h : stage.Room maxSessions s) (hsessions : s'.sessions = s.sessions)
    (hle : ∀ i, weightAt SessionThread.unfinished s'.made i ≤ weightAt SessionThread.unfinished s.made i) :
    stage.Room maxSessions s' := by
  cases stage with
  | reaping kept =>
    have hroom : kept + weighAt SessionThread.unfinished s.made (s.sessions.drop kept) ≤ maxSessions := h
    have hkeys := weighAt_mono hle (s.sessions.drop kept)
    show kept + weighAt SessionThread.unfinished s'.made (s'.sessions.drop kept) ≤ maxSessions
    rw [hsessions]
    omega
  | joining | accepting | accepted =>
    show s'.sessions.length ≤ maxSessions
    rw [hsessions]
    exact h
  | _ => trivial

/-- The thread of a session comes further. -/
theorem Inv.aged (h : s.Inv maxSessions) (hc : s.made[place]? = some c) {live : Nat}
    (hindex : d.index = c.index) (hjoinable : d.joinable = c.joinable) (hc' : c.thread.isSome = true)
    (hd : d.thread.isSome = true) (hexited : c.thread ≠ some .exited)
    (hlive : live + c.live = s.liveSessions + d.live) (hle : d.live ≤ c.live)
    (hunfinished : d.unfinished ≤ c.unfinished) (hsocket : d.socket = true → d.Connected) :
    Inv maxSessions { s with made := s.made.set place d, liveSessions := live } where
  live := by
    have hset := weigh_set SessionThread.live hc d
    have hold := h.live
    show live = weigh SessionThread.live (s.made.set place d) + s.acceptor.elim 0 AcceptStage.counted
    omega
  bounded := by
    have hold := h.bounded
    show live + s.acceptor.elim 0 AcceptStage.reserved ≤ maxSessions
    omega
  listed := h.listed
  room := fun stage hstage => Room.of_le (h.room stage hstage) rfl (weightAt_set_le hc hunfinished)
  counter := h.counter.trans List.length_set.symm
  numbered := fun i a ha => by
    rcases set_cases ha with ⟨rfl, rfl⟩ | ⟨-, ha⟩
    · exact hindex.trans (h.numbered i c hc)
    · exact h.numbered i a ha
  distinct := h.distinct
  settled := fun i hi hold => by
    obtain ⟨a, ha, hthread, hjoin⟩ := h.settled i hi hold
    by_cases hi : i = place
    · subst hi
      rw [hc] at ha
      cases ha
      exact ⟨d, set_same hc d, hd, hjoinable.trans hjoin⟩
    · exact ⟨a, (List.getElem?_set_ne (Ne.symm hi)).trans ha, hthread, hjoin⟩
  newcomer := fun stage i hstage hi => by
    obtain ⟨hmem, a, ha, hthread, hjoin⟩ := h.newcomer stage i hstage hi
    refine ⟨hmem, ?_⟩
    by_cases hi : i = place
    · subst hi
      rw [hc] at ha
      cases ha
      exact ⟨d, set_same hc d, (hd.trans hc'.symm).trans hthread, hjoinable.trans hjoin⟩
    · exact ⟨a, (List.getElem?_set_ne (Ne.symm hi)).trans ha, hthread, hjoin⟩
  gone := fun i a ha hout => by
    rcases set_cases ha with ⟨rfl, rfl⟩ | ⟨-, ha⟩
    · rcases (h.gone i c hc hout).thread with hthread | hthread
      · rw [hthread] at hc'
        cases hc'
      · exact absurd hthread hexited
    · exact h.gone i a ha hout
  sockets := fun i a ha hopen => by
    rcases set_cases ha with ⟨rfl, rfl⟩ | ⟨-, ha⟩
    · exact hsocket hopen
    · exact h.sockets i a ha hopen
  owned := h.owned
  unlisted := h.unlisted

/-- The socket of a thread that left `run_session` is closed. -/
theorem Inv.shut (h : s.Inv maxSessions) (hc : s.made[place]? = some c) (hover : ¬ c.Connected) :
    c.socket = false := by
  cases hopen : c.socket with
  | false => rfl
  | true => exact absurd (h.sockets place c hc hopen) hover

theorem Inv.session {granted : Bool} (h : s.Inv maxSessions) (hc : s.made[place]? = some c)
    (hstep : s.sessionStep place granted c = some s') : s'.Inv maxSessions := by
  -- the stages of `run_session` count alike
  have hserves {stage : SessionStage} (hthread : c.thread = some stage)
      (hstage : stage = .serving ∨ stage = .answering) (d : SessionThread) (hindex : d.index = c.index)
      (hjoinable : d.joinable = c.joinable)
      (hd : d.thread = some .serving ∨ d.thread = some .answering ∨
        d.thread = some .closed ∧ d.socket = false) :
      Inv maxSessions { s with made := s.made.set place d } := by
    have hcounted : c.live = 1 ∧ c.unfinished = 1 := by
      rcases hstage with rfl | rfl <;> simp [SessionThread.live, SessionThread.unfinished, hthread]
    have hnext : d.live = 1 ∧ d.unfinished = 1 ∧ d.thread.isSome = true ∧
        (d.socket = true → d.Connected) := by
      unfold SessionThread.Connected
      rcases hd with hd | hd | ⟨hd, hshut⟩
      · exact ⟨by simp [SessionThread.live, hd], by simp [SessionThread.unfinished, hd], by rw [hd]; rfl,
          fun _ => .inr (.inl hd)⟩
      · exact ⟨by simp [SessionThread.live, hd], by simp [SessionThread.unfinished, hd], by rw [hd]; rfl,
          fun _ => .inr (.inr hd)⟩
      · exact ⟨by simp [SessionThread.live, hd], by simp [SessionThread.unfinished, hd], by rw [hd]; rfl,
          fun hopen => by rw [hshut] at hopen; cases hopen⟩
    obtain ⟨hlive, hunfinished, hsome, hsocket⟩ := hnext
    have hexited : c.thread ≠ some .exited := by
      rw [hthread]
      rcases hstage with rfl | rfl <;> simp
    exact h.aged hc hindex hjoinable (by rw [hthread]; rfl) hsome hexited
      (by rw [hcounted.1, hlive]) (Nat.le_of_eq (hlive.trans hcounted.1.symm))
      (Nat.le_of_eq (hunfinished.trans hcounted.2.symm)) hsocket
  unfold sessionStep at hstep
  split at hstep
  · rename_i hthread
    split at hstep
    · split at hstep
      · cases hstep
        exact hserves hthread (.inl rfl) { c with thread := some .answering } rfl rfl (.inr (.inl rfl))
      · cases hstep
    · cases hstep
      exact hserves hthread (.inl rfl) { c with socket := false, thread := some .closed } rfl rfl
        (.inr (.inr ⟨rfl, rfl⟩))
  · rename_i hthread
    split at hstep
    · cases hstep
      exact hserves hthread (.inr rfl) { c with thread := some .serving } rfl rfl (.inl rfl)
    · cases hstep
      exact hserves hthread (.inr rfl) { c with socket := false, thread := some .closed } rfl rfl
        (.inr (.inr ⟨rfl, rfl⟩))
  · rename_i hthread
    cases hstep
    have hclosed := h.shut hc (by simp [SessionThread.Connected, hthread])
    exact h.aged hc rfl rfl (by simp [hthread]) rfl (by simp [hthread])
      (by simp [SessionThread.live, hthread]) (by simp [SessionThread.live, hthread])
      (by simp [SessionThread.unfinished, hthread]) fun hopen => by simp [hclosed] at hopen
  · rename_i hthread
    cases hstep
    have hclosed := h.shut hc (by simp [SessionThread.Connected, hthread])
    have hcounted : c.live = 1 := by simp [SessionThread.live, hthread]
    have hpositive : 1 ≤ s.liveSessions := by
      have hset := weigh_set SessionThread.live hc { c with thread := none }
      have hzero : SessionThread.live { c with thread := none } = 0 := rfl
      have hlive := h.live
      omega
    refine h.aged hc rfl rfl (by simp [hthread]) rfl (by simp [hthread]) ?_ (by simp [SessionThread.live])
      (by simp [SessionThread.unfinished]) fun hopen => by simp [hclosed] at hopen
    show s.liveSessions - 1 + c.live = s.liveSessions + 0
    omega
  · cases hstep
  · cases hstep

/-! ## Joining -/

/-- Whoever joins a session finds its thread over. -/
theorem join_spec (h : s.Inv maxSessions) (hheld : place ∈ s.held)
    (hold : s.acceptor.bind AcceptStage.newcomer = none) (hjoin : s.join place = some s') :
    ∃ c, s.made[place]? = some c ∧ c.thread = some .exited ∧
      s' = { s with made := s.made.set place { c with joinable := false } } := by
  obtain ⟨c, hc, -, hjoinable⟩ := h.settled place hheld (by simp [hold])
  unfold join at hjoin
  rw [hc, Option.bind_some, if_pos hjoinable] at hjoin
  split at hjoin
  · rename_i hthread
    cases hjoin
    exact ⟨c, hc, hthread, rfl⟩
  · cases hjoin

/-- A session is joined and dropped. -/
theorem Inv.dropped (h : s.Inv maxSessions) (hc : s.made[place]? = some c)
    (hexited : c.thread = some .exited) (hold : s.acceptor.bind AcceptStage.newcomer = none)
    (hindex : d.index = c.index) (hthread : d.thread = some .exited) (hjoined : d.joinable = false)
    (hsocket : d.socket = false) (acceptor : Option AcceptStage) (owner : OwnerStage)
    (hnew : acceptor.bind AcceptStage.newcomer = none)
    (hs' : s' = { s with made := s.made.set place d, acceptor, owner })
    (hheld : s.held.Perm (place :: s'.held))
    (hroom : ∀ stage, acceptor = some stage → stage.Room maxSessions s) (howned : s'.Owned)
    (hunlisted : acceptor = none → s.sessions = [] ∨ owner = .collecting) : s'.Inv maxSessions := by
  subst hs'
  have hcounted {acceptor : Option AcceptStage} (hnew : acceptor.bind AcceptStage.newcomer = none) :
      acceptor.elim 0 AcceptStage.counted = 0 ∧ acceptor.elim 0 AcceptStage.reserved = 0 := by
    cases acceptor with
    | none => exact ⟨rfl, rfl⟩
    | some stage => exact AcceptStage.uncounted hnew
  have hzero : c.live = 0 ∧ d.live = 0 := by simp [SessionThread.live, hexited, hthread]
  have hnodup := hheld.nodup_iff.1 h.distinct
  have hmem (i : Nat) (hne : i ≠ place) : i ∈ s.held ↔
      i ∈ Server.held { s with made := s.made.set place d, acceptor, owner } := by
    rw [hheld.mem_iff, List.mem_cons, or_iff_right hne]
  refine
    { live := ?_, bounded := ?_, listed := h.listed
      room := fun stage hstage => Room.of_le (hroom stage hstage) rfl
        (weightAt_set_le hc (by simp [SessionThread.unfinished, hthread]))
      counter := h.counter.trans List.length_set.symm
      numbered := fun i a ha => ?_, distinct := (List.nodup_cons.1 hnodup).2
      settled := fun i hi _ => ?_, newcomer := fun stage i hstage hi => ?_
      gone := fun i a ha hout => ?_, sockets := fun i a ha hopen => ?_, owned := howned
      unlisted := hunlisted }
  · have hset := weigh_set SessionThread.live hc d
    have hlive := h.live
    rw [(hcounted hold).1] at hlive
    show s.liveSessions = weigh SessionThread.live (s.made.set place d) + acceptor.elim 0 AcceptStage.counted
    rw [(hcounted hnew).1]
    omega
  · have hbounded := h.bounded
    show s.liveSessions + acceptor.elim 0 AcceptStage.reserved ≤ maxSessions
    rw [(hcounted hnew).2]
    omega
  · rcases set_cases ha with ⟨rfl, rfl⟩ | ⟨-, ha⟩
    · exact hindex.trans (h.numbered i c hc)
    · exact h.numbered i a ha
  · have hne : i ≠ place := by
      rintro rfl
      exact (List.nodup_cons.1 hnodup).1 hi
    obtain ⟨a, ha, hsettled⟩ := h.settled i ((hmem i hne).2 hi) (by simp [hold])
    exact ⟨a, (List.getElem?_set_ne (Ne.symm hne)).trans ha, hsettled⟩
  · have hnone : acceptor.bind AcceptStage.newcomer = some i := by
      rw [show acceptor = some stage from hstage]
      exact hi
    rw [hnew] at hnone
    cases hnone
  · rcases set_cases ha with ⟨rfl, rfl⟩ | ⟨hne, ha⟩
    · exact ⟨.inr hthread, hjoined, hsocket⟩
    · exact h.gone i a ha fun hi => hout ((hmem i hne).1 hi)
  · rcases set_cases ha with ⟨rfl, rfl⟩ | ⟨-, ha⟩
    · rw [hsocket] at hopen
      cases hopen
    · exact h.sockets i a ha hopen

/-! ## The accepting thread -/

theorem held_some (hstage : s.acceptor = some stage) :
    s.held = s.sessions ++ stage.held ++ s.owner.held := by
  unfold held
  rw [hstage]
  rfl

theorem Owned.accepting (h : s.Owned) (hstage : s.acceptor = some stage)
    (howner : s'.owner = s.owner) (hrunning : s'.running = s.running)
    (hstage' : s'.acceptor = some stage') : s'.Owned := by
  unfold Owned at h ⊢
  rw [howner, hrunning, hstage']
  rw [hstage] at h
  split at h
  · exact h
  · cases h.2
  · exact h
  · exact h
  · cases h.2
  · cases h.2

/-- The accepting thread goes on without touching a session. -/
theorem Inv.shift (h : s.Inv maxSessions) (hstage : s.acceptor = some stage)
    (hold : stage.newcomer = none) (hnew : stage'.newcomer = none) (hheld : stage'.held = stage.held)
    (hroom : stage'.Room maxSessions s) : Inv maxSessions { s with acceptor := some stage' } := by
  have hsame : Server.held { s with acceptor := some stage' } = s.held := by
    rw [held_some hstage, ← hheld]
    rfl
  refine
    { live := ?_, bounded := ?_, listed := h.listed, room := fun stage hs => ?_
      counter := h.counter, numbered := h.numbered, distinct := hsame ▸ h.distinct
      settled := fun i hi _ => h.settled i (hsame ▸ hi) (by rw [hstage]; simp [hold])
      newcomer := fun stage i hs hi => ?_, gone := fun i c hc hout => h.gone i c hc (hsame ▸ hout)
      sockets := h.sockets, owned := h.owned.accepting hstage rfl rfl rfl
      unlisted := fun hnone => by cases hnone }
  · have hlive := h.live
    rw [hstage] at hlive
    simp only [Option.elim_some, (AcceptStage.uncounted hold).1] at hlive
    simp only [Option.elim_some, (AcceptStage.uncounted hnew).1]
    exact hlive
  · have hbounded := h.bounded
    simp only [Option.elim_some, (AcceptStage.uncounted hnew).2]
    omega
  · cases hs
    exact Room.of_le hroom rfl fun _ => Nat.le_refl _
  · cases hs
    rw [hnew] at hi
    cases hi

/-- A finished session is taken out of the list. -/
theorem Inv.takenOut {kept : Nat} {finished : List Nat} (h : s.Inv maxSessions)
    (hstage : s.acceptor = some (.reaping kept finished)) (hplace : s.sessions[kept]? = some place) :
    Inv maxSessions { s with
      sessions := s.sessions.eraseIdx kept, acceptor := some (.reaping kept (finished ++ [place])) } := by
  obtain ⟨hlt, rfl⟩ := List.getElem?_eq_some_iff.1 hplace
  have hsplit := List.getElem_cons_eraseIdx_perm hlt
  have hheld : s.held.Perm (Server.held { s with
      sessions := s.sessions.eraseIdx kept
      acceptor := some (.reaping kept (finished ++ [s.sessions[kept]])) }) := by
    rw [held_some hstage]
    refine List.Perm.append_right _ ?_
    show (s.sessions ++ finished).Perm (s.sessions.eraseIdx kept ++ (finished ++ [s.sessions[kept]]))
    rw [← List.append_assoc]
    exact (hsplit.symm.append_right finished).trans (List.perm_append_singleton _ _).symm
  have hdrop : (s.sessions.eraseIdx kept).drop kept = s.sessions.drop (kept + 1) := by
    rw [List.eraseIdx_eq_take_drop_succ]
    exact List.drop_left' (List.length_take_of_le (Nat.le_of_lt hlt))
  refine
    { live := ?_, bounded := ?_, listed := ?_, room := fun stage hs => ?_, counter := h.counter
      numbered := h.numbered, distinct := hheld.nodup_iff.1 h.distinct
      settled := fun i hi _ => h.settled i (hheld.mem_iff.2 hi) (by rw [hstage]; simp [AcceptStage.newcomer])
      newcomer := fun stage i hs hi => ?_
      gone := fun i c hc hout => h.gone i c hc fun hi => hout (hheld.mem_iff.1 hi), sockets := h.sockets
      owned := h.owned.accepting hstage rfl rfl rfl, unlisted := fun hnone => by cases hnone }
  · have hlive := h.live
    rw [hstage] at hlive
    exact hlive
  · have hbounded := h.bounded
    rw [hstage] at hbounded
    exact hbounded
  · have hlisted := h.listed
    rw [List.length_eraseIdx_of_lt hlt]
    omega
  · cases hs
    have hroom : kept + weighAt SessionThread.unfinished s.made (s.sessions.drop kept) ≤ maxSessions :=
      h.room _ hstage
    show kept + weighAt SessionThread.unfinished s.made ((s.sessions.eraseIdx kept).drop kept) ≤ maxSessions
    rw [hdrop]
    rw [List.drop_eq_getElem_cons hlt, weighAt, weigh] at hroom
    unfold weighAt
    omega
  · cases hs
    cases hi

/-- A connection is admitted. -/
theorem Inv.admitted (h : s.Inv maxSessions) (hstage : s.acceptor = some .accepted)
    (hlimit : s.liveSessions < maxSessions) : Inv maxSessions { s with
      sessionCounter := s.sessionCounter + 1
      made := s.made ++ [{ index := s.sessionCounter + 1 }]
      sessions := s.sessions ++ [s.made.length], acceptor := some (.counting s.made.length) } := by
  have hnone : s.acceptor.bind AcceptStage.newcomer = none := by rw [hstage]; rfl
  have hheld : (Server.held { s with
      sessionCounter := s.sessionCounter + 1
      made := s.made ++ [{ index := s.sessionCounter + 1 }]
      sessions := s.sessions ++ [s.made.length]
      acceptor := some (.counting s.made.length) }).Perm (s.made.length :: s.held) := by
    rw [held_some hstage]
    show ((s.sessions ++ [s.made.length]) ++ [] ++ s.owner.held).Perm
      (s.made.length :: (s.sessions ++ [] ++ s.owner.held))
    rw [List.append_nil, List.append_nil]
    exact (List.perm_append_singleton _ _).append_right _
  have hfresh : s.made.length ∉ s.held := by
    intro hmem
    obtain ⟨c, hc, -⟩ := h.settled _ hmem (by simp [hnone])
    exact absurd (List.getElem?_eq_some_iff.1 hc).1 (Nat.lt_irrefl _)
  refine
    { live := ?_, bounded := ?_, listed := ?_, room := fun stage hs => ?_
      counter := by simp [h.counter], numbered := fun i c hc => ?_
      distinct := hheld.nodup_iff.2 (List.nodup_cons.2 ⟨hfresh, h.distinct⟩)
      settled := fun i hi hne => ?_, newcomer := fun stage i hs hi => ?_
      gone := fun i c hc hout => ?_, sockets := fun i c hc hopen => ?_
      owned := h.owned.accepting hstage rfl rfl rfl, unlisted := fun hnone => by cases hnone }
  · have hlive := h.live
    rw [hstage] at hlive
    show s.liveSessions = weigh SessionThread.live (s.made ++ [{ index := s.sessionCounter + 1 }]) + 0
    rw [weigh_snoc]
    exact hlive
  · exact hlimit
  · have hroom : s.sessions.length ≤ maxSessions := h.room _ hstage
    simp only [List.length_append, List.length_singleton]
    omega
  · cases hs
    trivial
  · rcases snoc_cases hc with ⟨rfl, rfl⟩ | ⟨-, hc⟩
    · exact congrArg (· + 1) h.counter
    · exact h.numbered i c hc
  · rcases List.mem_cons.1 (hheld.mem_iff.1 hi) with rfl | hi
    · exact absurd rfl hne
    · obtain ⟨c, hc, hsettled⟩ := h.settled i hi (by simp [hnone])
      exact ⟨c, snoc_some hc _, hsettled⟩
  · cases hs
    cases hi
    exact ⟨List.mem_append_right _ List.mem_cons_self, _, List.getElem?_concat_length, rfl, rfl⟩
  · rcases snoc_cases hc with ⟨rfl, rfl⟩ | ⟨-, hc⟩
    · exact absurd (hheld.mem_iff.2 List.mem_cons_self) hout
    · exact h.gone i c hc fun hi => hout (hheld.mem_iff.2 (List.mem_cons_of_mem _ hi))
  · rcases snoc_cases hc with ⟨rfl, rfl⟩ | ⟨-, hc⟩
    · exact .inl rfl
    · exact h.sockets i c hc hopen

/-- The newcomer enters the count, or leaves it again. -/
theorem Inv.recounted (h : s.Inv maxSessions) (hstage : s.acceptor = some stage)
    (hold : stage.newcomer = some place) (hnew : stage'.newcomer = some place)
    (hnot : stage ≠ .storing place) (hnot' : stage' ≠ .storing place) {live : Nat}
    (hlive : live + stage.counted = s.liveSessions + stage'.counted)
    (hbounded : live + stage'.reserved ≤ maxSessions) (hroom : stage'.Room maxSessions s) :
    Inv maxSessions { s with liveSessions := live, acceptor := some stage' } := by
  have hsame : Server.held { s with liveSessions := live, acceptor := some stage' } = s.held := by
    rw [held_some hstage, AcceptStage.held_of_newcomer hold, ← AcceptStage.held_of_newcomer hnew]
    rfl
  refine
    { live := ?_, bounded := hbounded, listed := h.listed, room := fun stage hs => ?_
      counter := h.counter, numbered := h.numbered, distinct := hsame ▸ h.distinct
      settled := fun i hi hne => h.settled i (hsame ▸ hi) ?_
      newcomer := fun stage i hs hi => ?_, gone := fun i c hc hout => h.gone i c hc (hsame ▸ hout)
      sockets := h.sockets, owned := h.owned.accepting hstage rfl rfl rfl
      unlisted := fun hnone => by cases hnone }
  · have hcount := h.live
    rw [hstage, Option.elim_some] at hcount
    show live = weigh SessionThread.live s.made + stage'.counted
    omega
  · cases hs
    exact Room.of_le hroom rfl fun _ => Nat.le_refl _
  · rw [hstage, Option.bind_some, hold]
    have hne : stage'.newcomer ≠ some i := hne
    rwa [hnew] at hne
  · cases hs
    rw [hnew] at hi
    cases hi
    obtain ⟨hmem, c, hc, hthread, hjoin⟩ := h.newcomer stage place hstage hold
    refine ⟨hmem, c, hc, ?_, hjoin⟩
    rw [hthread, decide_eq_false hnot, decide_eq_false hnot']

/-- The newcomer's thread is started, or stored in its session. -/
theorem Inv.fitted (h : s.Inv maxSessions) (hstage : s.acceptor = some stage)
    (hold : stage.newcomer = some place) (hc : s.made[place]? = some c) (hindex : d.index = c.index)
    (hthread : d.thread.isSome = true)
    (hnew : stage' = .storing place ∧ d.joinable = false ∨ stage' = .polling ∧ d.joinable = true)
    (hlive : s.liveSessions + c.live = weigh SessionThread.live s.made + d.live)
    (hsocket : d.socket = true → d.Connected) :
    Inv maxSessions { s with made := s.made.set place d, acceptor := some stage' } := by
  have hsame : Server.held { s with made := s.made.set place d, acceptor := some stage' } = s.held := by
    rw [held_some hstage, AcceptStage.held_of_newcomer hold]
    rcases hnew with ⟨rfl, -⟩ | ⟨rfl, -⟩ <;> rfl
  obtain ⟨hmem, -⟩ := h.newcomer stage place hstage hold
  have hheld : place ∈ s.held := by
    rw [held_some hstage]
    exact List.mem_append_left _ (List.mem_append_left _ hmem)
  have hkept {i : Nat} (hi : i ∈ s.held) (hne : i ≠ place) : ∃ a,
      (s.made.set place d)[i]? = some a ∧ a.thread.isSome = true ∧ a.joinable = true := by
    obtain ⟨a, ha, hsettled⟩ := h.settled i hi (by
      rw [hstage, Option.bind_some, hold]
      exact fun heq => hne (Option.some.inj heq).symm)
    exact ⟨a, (List.getElem?_set_ne (Ne.symm hne)).trans ha, hsettled⟩
  refine
    { live := ?_, bounded := ?_, listed := h.listed, room := fun stage hs => ?_
      counter := h.counter.trans List.length_set.symm, numbered := fun i a ha => ?_
      distinct := hsame ▸ h.distinct, settled := fun i hi hne => ?_
      newcomer := fun stage i hs hi => ?_, gone := fun i a ha hout => ?_
      sockets := fun i a ha hopen => ?_, owned := h.owned.accepting hstage rfl rfl rfl
      unlisted := fun hnone => by cases hnone }
  · have hset := weigh_set SessionThread.live hc d
    have hnone : stage'.counted = 0 := by rcases hnew with ⟨rfl, -⟩ | ⟨rfl, -⟩ <;> rfl
    show s.liveSessions = weigh SessionThread.live (s.made.set place d) + stage'.counted
    omega
  · have hbounded := h.bounded
    have hnone : stage'.reserved = 0 := by rcases hnew with ⟨rfl, -⟩ | ⟨rfl, -⟩ <;> rfl
    show s.liveSessions + stage'.reserved ≤ maxSessions
    omega
  · cases hs
    rcases hnew with ⟨rfl, -⟩ | ⟨rfl, -⟩ <;> trivial
  · rcases set_cases ha with ⟨rfl, rfl⟩ | ⟨-, ha⟩
    · exact hindex.trans (h.numbered i c hc)
    · exact h.numbered i a ha
  · by_cases hi' : i = place
    · subst hi'
      rcases hnew with ⟨rfl, -⟩ | ⟨rfl, hjoinable⟩
      · exact absurd rfl hne
      · exact ⟨d, set_same hc d, hthread, hjoinable⟩
    · exact hkept (hsame ▸ hi) hi'
  · cases hs
    rcases hnew with ⟨rfl, hjoinable⟩ | ⟨rfl, -⟩
    · cases hi
      exact ⟨hmem, d, set_same hc d, by simp [hthread], hjoinable⟩
    · cases hi
  · have hunheld : i ∉ s.held := hsame ▸ hout
    rcases set_cases ha with ⟨rfl, rfl⟩ | ⟨-, ha⟩
    · exact absurd hheld hunheld
    · exact h.gone i a ha hunheld
  · rcases set_cases ha with ⟨rfl, rfl⟩ | ⟨-, ha⟩
    · exact hsocket hopen
    · exact h.sockets i a ha hopen

/-- The session of a thread that could not be started is dropped. -/
theorem Inv.withdrawn (h : s.Inv maxSessions) (hstage : s.acceptor = some (.withdrawing place))
    (hc : s.made[place]? = some c) (hthread : c.thread = none) (hjoinable : c.joinable = false) :
    Inv maxSessions { s with
      sessions := s.sessions.filter (· != place), made := s.made.set place { c with socket := false }
      acceptor := some .polling } := by
  obtain ⟨hmem, -⟩ := h.newcomer _ place hstage rfl
  have hdistinct := h.distinct
  rw [held_some hstage] at hdistinct
  have hnodup := (List.nodup_append.1 (List.nodup_append.1 hdistinct).1).1
  have hheld : s.held.Perm (place :: (s.sessions.filter (· != place) ++ [] ++ s.owner.held)) := by
    rw [held_some hstage, List.append_nil, ← hnodup.erase_eq_filter]
    show (s.sessions ++ [] ++ s.owner.held).Perm _
    rw [List.append_nil]
    exact (List.perm_cons_erase hmem).append_right _
  have hnodup' := hheld.nodup_iff.1 h.distinct
  have hout {i : Nat} (hi : i ∈ s.sessions.filter (· != place) ++ [] ++ s.owner.held) : i ≠ place := by
    rintro rfl
    exact (List.nodup_cons.1 hnodup').1 hi
  have hzero : c.live = 0 ∧ SessionThread.live { c with socket := false } = 0 := by
    simp [SessionThread.live, hthread]
  refine
    { live := ?_, bounded := ?_, listed := ?_, room := fun stage hs => ?_
      counter := h.counter.trans List.length_set.symm, numbered := fun i a ha => ?_
      distinct := (List.nodup_cons.1 hnodup').2, settled := fun i hi _ => ?_
      newcomer := fun stage i hs hi => ?_, gone := fun i a ha hunheld => ?_
      sockets := fun i a ha hopen => ?_, owned := h.owned.accepting hstage rfl rfl rfl
      unlisted := fun hnone => by cases hnone }
  · have hset := weigh_set SessionThread.live hc { c with socket := false }
    have hlive := h.live
    rw [hstage, Option.elim_some] at hlive
    have hnone : AcceptStage.counted (.withdrawing place) = 0 := rfl
    show s.liveSessions = weigh SessionThread.live (s.made.set place { c with socket := false }) + 0
    omega
  · have hbounded := h.bounded
    rw [hstage] at hbounded
    exact hbounded
  · exact Nat.le_trans (List.length_filter_le _ _) h.listed
  · cases hs
    trivial
  · rcases set_cases ha with ⟨rfl, rfl⟩ | ⟨-, ha⟩
    · exact h.numbered i c hc
    · exact h.numbered i a ha
  · obtain ⟨a, ha, hsettled⟩ := h.settled i (hheld.mem_iff.2 (List.mem_cons_of_mem _ hi)) (by
      rw [hstage]
      exact fun heq => hout hi (Option.some.inj heq).symm)
    exact ⟨a, (List.getElem?_set_ne (Ne.symm (hout hi))).trans ha, hsettled⟩
  · cases hs
    cases hi
  · rcases set_cases ha with ⟨rfl, rfl⟩ | ⟨hne, ha⟩
    · exact ⟨.inl hthread, hjoinable, rfl⟩
    · exact h.gone i a ha fun hi => hunheld (List.mem_of_ne_of_mem hne (hheld.mem_iff.1 hi))
  · rcases set_cases ha with ⟨rfl, rfl⟩ | ⟨-, ha⟩
    · cases hopen
    · exact h.sockets i a ha hopen

/-- A reaping starts with no more sessions that still run than there is room for. -/
theorem Inv.polled (h : s.Inv maxSessions) (hstage : s.acceptor = some .polling) :
    weighAt SessionThread.unfinished s.made s.sessions ≤ maxSessions := by
  have hnodup : s.sessions.Nodup := by
    have hdistinct := h.distinct
    rw [held_some hstage] at hdistinct
    exact (List.nodup_append.1 (List.nodup_append.1 hdistinct).1).1
  have hunfinished : weigh SessionThread.unfinished s.made ≤ weigh SessionThread.live s.made :=
    weigh_mono fun c _ => by
      unfold SessionThread.unfinished SessionThread.live
      split <;> simp_all
  have hall : weighAt SessionThread.unfinished s.made s.sessions ≤ _ := weighAt_le hnodup
  have hlive := h.live
  have hbounded := h.bounded
  omega

/-- A session that the reaping passes over still runs. -/
theorem Inv.passed {kept : Nat} {finished : List Nat} (h : s.Inv maxSessions)
    (hstage : s.acceptor = some (.reaping kept finished)) (hplace : s.sessions[kept]? = some place)
    (hc : s.made[place]? = some c) (hunfinished : ¬ isFinished c = true) :
    kept + 1 + weighAt SessionThread.unfinished s.made (s.sessions.drop (kept + 1)) ≤ maxSessions := by
  have hroom : kept + weighAt SessionThread.unfinished s.made (s.sessions.drop kept) ≤ maxSessions :=
    h.room _ hstage
  obtain ⟨hlt, rfl⟩ := List.getElem?_eq_some_iff.1 hplace
  have hheld : s.sessions[kept] ∈ s.held := by
    rw [held_some hstage]
    exact List.mem_append_left _ (List.mem_append_left _ (List.getElem_mem hlt))
  obtain ⟨a, ha, hthread, -⟩ := h.settled _ hheld (by rw [hstage]; simp [AcceptStage.newcomer])
  rw [hc] at ha
  cases ha
  have hone : weightAt SessionThread.unfinished s.made s.sessions[kept] = 1 := by
    unfold weightAt
    rw [hc]
    unfold isFinished at hunfinished
    simp only [Option.map_some, Option.getD_some, SessionThread.unfinished]
    cases hstage : c.thread with
    | none =>
      rw [hstage] at hthread
      cases hthread
    | some stage =>
      rw [hstage] at hunfinished
      cases stage <;> simp_all
  rw [List.drop_eq_getElem_cons hlt, weighAt, weigh] at hroom
  unfold weighAt
  omega

/-- A step of the accepting thread. -/
theorem Inv.accept {granted : Bool} (h : s.Inv maxSessions) (hstage : s.acceptor = some stage)
    (hstep : s.acceptStep maxSessions granted stage = some s') : s'.Inv maxSessions := by
  cases stage with
  | polling =>
    cases hstep
    split
    · refine h.shift hstage rfl rfl rfl ?_
      have hpolled := h.polled hstage
      show 0 + weighAt SessionThread.unfinished s.made (s.sessions.drop 0) ≤ maxSessions
      rw [List.drop_zero]
      omega
    · exact h.shift hstage rfl rfl rfl trivial
  | reaping kept finished =>
    have hroom : kept + weighAt SessionThread.unfinished s.made (s.sessions.drop kept) ≤ maxSessions :=
      h.room _ hstage
    unfold acceptStep at hstep
    dsimp only at hstep
    split at hstep
    · rename_i hend
      cases hstep
      refine h.shift hstage rfl rfl rfl ?_
      show s.sessions.length ≤ maxSessions
      have hlength := List.getElem?_eq_none_iff.1 hend
      omega
    · rename_i place hplace
      obtain ⟨c, hc, hstep⟩ := Option.map_eq_some_iff.1 hstep
      split at hstep
      · subst hstep
        exact h.takenOut hstage hplace
      · rename_i hunfinished
        subst hstep
        exact h.shift hstage rfl rfl rfl (h.passed hstage hplace hc hunfinished)
  | joining finished =>
    have hroom : s.sessions.length ≤ maxSessions := h.room _ hstage
    cases finished with
    | nil =>
      cases hstep
      exact h.shift hstage rfl rfl rfl hroom
    | cons place rest =>
      obtain ⟨s₁, hjoin, rfl⟩ := Option.map_eq_some_iff.1 hstep
      have hnone : s.acceptor.bind AcceptStage.newcomer = none := by rw [hstage]; rfl
      have hheld : s.held = s.sessions ++ place :: rest ++ s.owner.held := held_some hstage
      obtain ⟨c, hc, hexited, rfl⟩ := join_spec h (by rw [hheld]; simp) hnone hjoin
      have hshut : c.socket = false := h.shut hc (by simp [SessionThread.Connected, hexited])
      refine h.dropped hc hexited hnone (d := { c with joinable := false }) rfl hexited rfl hshut
        (some (.joining rest)) s.owner rfl rfl ?_ (fun stage hs => ?_)
        (h.owned.accepting hstage rfl rfl rfl) fun hnone => by cases hnone
      · rw [hheld]
        exact List.perm_middle.append_right _
      · cases hs
        exact hroom
  | accepting =>
    have hroom : s.sessions.length ≤ maxSessions := h.room _ hstage
    cases hstep
    split
    · exact h.shift hstage rfl rfl rfl hroom
    · exact h.shift hstage rfl rfl rfl trivial
  | accepted =>
    unfold acceptStep at hstep
    dsimp only at hstep
    split at hstep
    · cases hstep
      exact h.shift hstage rfl rfl rfl trivial
    · rename_i hlimit
      cases hstep
      exact h.admitted hstage (by omega)
  | counting place =>
    cases hstep
    refine h.recounted hstage rfl rfl (by simp) (by simp) rfl ?_ trivial
    have hbounded := h.bounded
    rw [hstage] at hbounded
    exact hbounded
  | spawning place =>
    obtain ⟨hmem, c, hc, hthread, hjoinable⟩ := h.newcomer _ place hstage rfl
    have hnone : c.thread = none := by simpa using hthread
    have hlive := h.live
    rw [hstage, Option.elim_some] at hlive
    have hcounted : AcceptStage.counted (.spawning place) = 1 := rfl
    unfold acceptStep at hstep
    dsimp only at hstep
    split at hstep
    · cases hstep
      rw [modify_eq_set hc]
      refine h.fitted hstage rfl hc rfl rfl (.inl ⟨rfl, hjoinable⟩) ?_ fun _ => .inr (.inl rfl)
      have hzero : c.live = 0 := by simp [SessionThread.live, hnone]
      have hone : SessionThread.live { c with thread := some .serving } = 1 := rfl
      omega
    · cases hstep
      refine h.recounted hstage rfl rfl (by simp) (by simp) ?_ ?_ trivial
      · have hzero : AcceptStage.counted (.withdrawing place) = 0 := rfl
        omega
      · have hbounded := h.bounded
        show s.liveSessions - 1 + 0 ≤ maxSessions
        omega
  | storing place =>
    obtain ⟨hmem, c, hc, hthread, hjoinable⟩ := h.newcomer _ place hstage rfl
    have hlive := h.live
    rw [hstage, Option.elim_some] at hlive
    have hcounted : AcceptStage.counted (.storing place) = 0 := rfl
    cases hstep
    rw [modify_eq_set hc]
    refine h.fitted hstage rfl hc rfl (by simpa using hthread) (.inr ⟨rfl, rfl⟩) ?_
      fun hopen => h.sockets place c hc hopen
    show s.liveSessions + c.live = weigh SessionThread.live s.made + c.live
    omega
  | withdrawing place =>
    obtain ⟨hmem, c, hc, hthread, hjoinable⟩ := h.newcomer _ place hstage rfl
    cases hstep
    have hwithdrawn := h.withdrawn hstage hc (by simpa using hthread) hjoinable
    rwa [← modify_eq_set hc fun c : SessionThread => { c with socket := false }] at hwithdrawn
  | ended => cases hstep

end

/-! ## The owner -/

/-- No accepting thread, or one that holds nothing. -/
def Bare (acceptor : Option AcceptStage) : Prop :=
  acceptor = none ∨ acceptor = some .polling ∨ acceptor = some .ended

theorem Bare.spec {acceptor : Option AcceptStage} (h : Bare acceptor) :
    acceptor.bind AcceptStage.newcomer = none ∧ acceptor.elim 0 AcceptStage.counted = 0 ∧
      acceptor.elim 0 AcceptStage.reserved = 0 ∧ acceptor.elim [] AcceptStage.held = [] ∧
      ∀ stage, acceptor = some stage → ∀ maxSessions s, stage.Room maxSessions s := by
  rcases h with rfl | rfl | rfl
  · exact ⟨rfl, rfl, rfl, rfl, fun _ h => by cases h⟩
  · exact ⟨rfl, rfl, rfl, rfl, fun _ h => by cases h; exact fun _ _ => trivial⟩
  · exact ⟨rfl, rfl, rfl, rfl, fun _ h => by cases h; exact fun _ _ => trivial⟩

/-- The owner goes on; the accepting thread may be started or joined. -/
theorem Inv.owning (h : s.Inv maxSessions) (acceptor : Option AcceptStage) {owner : OwnerStage}
    {running listening : Bool} (hs' : s' = { s with running, listening, acceptor, owner })
    (hacceptor : acceptor = s.acceptor ∨ Bare s.acceptor ∧ Bare acceptor)
    (hheld : owner.held = s.owner.held) (howned : s'.Owned)
    (hunlisted : acceptor = none → s.sessions = [] ∨ owner = .collecting) : s'.Inv maxSessions := by
  subst hs'
  have hfacts : acceptor.bind AcceptStage.newcomer = s.acceptor.bind AcceptStage.newcomer ∧
      acceptor.elim 0 AcceptStage.counted = s.acceptor.elim 0 AcceptStage.counted ∧
      acceptor.elim 0 AcceptStage.reserved = s.acceptor.elim 0 AcceptStage.reserved ∧
      acceptor.elim [] AcceptStage.held = s.acceptor.elim [] AcceptStage.held ∧
      ∀ stage, acceptor = some stage → stage.Room maxSessions s := by
    rcases hacceptor with rfl | ⟨hold, hnew⟩
    · exact ⟨rfl, rfl, rfl, rfl, h.room⟩
    · obtain ⟨h₁, h₂, h₃, h₄, -⟩ := hold.spec
      obtain ⟨h₁', h₂', h₃', h₄', hroom⟩ := hnew.spec
      exact ⟨h₁'.trans h₁.symm, h₂'.trans h₂.symm, h₃'.trans h₃.symm, h₄'.trans h₄.symm,
        fun stage hstage => hroom stage hstage maxSessions s⟩
  obtain ⟨hnewcomer, hcounted, hreserved, haccepted, hroom⟩ := hfacts
  have hsame : Server.held { s with running, listening, acceptor, owner } = s.held := by
    unfold held
    rw [hheld, haccepted]
  exact
    { live := h.live.trans (by rw [hcounted]), bounded := by rw [hreserved]; exact h.bounded
      listed := h.listed
      room := fun stage hs => Room.of_le (hroom stage hs) rfl fun _ => Nat.le_refl _
      counter := h.counter, numbered := h.numbered, distinct := hsame ▸ h.distinct
      settled := fun i hi hne => h.settled i (hsame ▸ hi) (hnewcomer ▸ hne)
      newcomer := fun stage i hs hi => by
        have hbind : s.acceptor.bind AcceptStage.newcomer = some i := by
          rw [← hnewcomer, show acceptor = some stage from hs]
          exact hi
        obtain ⟨stage', hstage', hi'⟩ := Option.bind_eq_some_iff.1 hbind
        rcases hacceptor with rfl | ⟨hold, -⟩
        · exact h.newcomer stage i hs hi
        · rw [hold.spec.1] at hbind
          cases hbind
      gone := fun i c hc hout => h.gone i c hc (hsame ▸ hout), sockets := h.sockets, owned := howned
      unlisted := hunlisted }

/-- The sessions that are left are handed to `stop`. -/
theorem Inv.collected (h : s.Inv maxSessions) (howner : s.owner = .collecting) :
    Inv maxSessions { s with sessions := [], owner := .joining s.sessions } := by
  have howned := h.owned
  unfold Owned at howned
  rw [howner] at howned
  obtain ⟨hrunning, hnone⟩ := howned
  have hsame : Server.held { s with sessions := [], owner := .joining s.sessions } = s.held := by
    unfold held
    rw [hnone, howner]
    show [] ++ [] ++ s.sessions = s.sessions ++ [] ++ []
    simp
  exact
    { live := h.live, bounded := h.bounded, listed := Nat.zero_le _
      room := fun stage hs => by
        rw [show s.acceptor = some stage from hs] at hnone
        cases hnone
      counter := h.counter, numbered := h.numbered, distinct := hsame ▸ h.distinct
      settled := fun i hi hne => h.settled i (hsame ▸ hi) hne
      newcomer := fun stage i hs hi => by
        rw [show s.acceptor = some stage from hs] at hnone
        cases hnone
      gone := fun i c hc hout => h.gone i c hc (hsame ▸ hout), sockets := h.sockets
      owned := ⟨hrunning, hnone⟩, unlisted := fun _ => .inl rfl }

/-- A step of `stop`. -/
theorem Inv.stopping {returned : Bool} (h : s.Inv maxSessions)
    (hstep : s.stopStep s.owner = some (s', returned)) : s'.Inv maxSessions := by
  have howned := h.owned
  unfold Owned at howned
  cases howner : s.owner with
  | idle | launching =>
    rw [howner] at hstep
    cases hstep
  | closing =>
    rw [howner] at hstep howned
    cases hstep
    exact h.owning s.acceptor rfl (.inl rfl) (by rw [howner]; rfl) howned fun hnone =>
      .inl ((h.unlisted hnone).resolve_right (by rw [howner]; simp))
  | joiningAcceptor =>
    rw [howner] at hstep howned
    unfold stopStep at hstep
    dsimp only at hstep
    split at hstep
    · rename_i hnone
      cases hstep
      exact h.owning none rfl (.inr ⟨.inl hnone, .inl rfl⟩) (by rw [howner]; rfl) ⟨howned, rfl⟩
        fun _ => .inr rfl
    · rename_i hended
      cases hstep
      exact h.owning none rfl (.inr ⟨.inr (.inr hended), .inl rfl⟩) (by rw [howner]; rfl)
        ⟨howned, rfl⟩ fun _ => .inr rfl
    · cases hstep
  | collecting =>
    rw [howner] at hstep
    cases hstep
    exact h.collected howner
  | joining sessions =>
    rw [howner] at hstep howned
    obtain ⟨hrunning, hnone⟩ := howned
    have hsessions : s.sessions = [] := (h.unlisted hnone).resolve_right (by rw [howner]; simp)
    cases sessions with
    | nil =>
      cases hstep
      refine h.owning s.acceptor rfl (.inl rfl) (by rw [howner]; rfl) ?_ fun _ => .inl hsessions
      show s.running = s.acceptor.isSome
      rw [hrunning, hnone]
      rfl
    | cons place rest =>
      obtain ⟨s₁, hjoin, heq⟩ := Option.map_eq_some_iff.1 hstep
      obtain rfl : _ = s' := congrArg Prod.fst heq
      have hheld : s.held = place :: rest := by
        unfold held
        rw [hsessions, hnone, howner]
        rfl
      have hold : s.acceptor.bind AcceptStage.newcomer = none := by rw [hnone]; rfl
      obtain ⟨c, hc, hexited, rfl⟩ := join_spec h (by rw [hheld]; exact List.mem_cons_self) hold hjoin
      have hclosed : (s.made.set place { c with joinable := false }).modify place
          (fun c => { c with socket := false }) =
            s.made.set place { c with joinable := false, socket := false } := by
        rw [modify_eq_set (set_same hc _), List.set_set]
      refine h.dropped hc hexited hold (d := { c with joinable := false, socket := false }) rfl hexited rfl rfl
        s.acceptor (.joining rest) hold ?_ ?_ h.room ⟨hrunning, hnone⟩ fun _ => .inl hsessions
      · unfold close
        simp only [hclosed]
      · rw [hheld]
        unfold held close
        simp only [hsessions, hnone]
        exact .refl _

/-! ## Runs -/

theorem Inv.step {event : ServerEvent} {returned : Bool} (h : s.Inv maxSessions)
    (hstep : s.step maxSessions event = some (s', returned)) : s'.Inv maxSessions := by
  have howned := h.owned
  unfold Owned at howned
  unfold Server.step at hstep
  cases event with
  | start listens =>
    dsimp only at hstep
    split at hstep
    · rename_i howner
      rw [howner] at howned
      split at hstep
      · cases hstep
        exact h
      · rename_i hlaunch
        cases hstep
        have hrunning : s.running = false := by
          cases hrun : s.running with
          | false => rfl
          | true => simp [hrun] at hlaunch
        have hnone : s.acceptor = none := by simpa using howned.symm.trans hrunning
        exact h.owning s.acceptor rfl (.inl rfl) (by rw [howner]; rfl) ⟨rfl, hnone⟩ fun hnone =>
          .inl ((h.unlisted hnone).resolve_right (by rw [howner]; simp))
    · cases hstep
  | launch granted =>
    dsimp only at hstep
    split at hstep
    · rename_i howner
      rw [howner] at howned
      obtain ⟨hrunning, hnone⟩ := howned
      cases hstep
      split
      · exact h.owning (some .polling) rfl (.inr ⟨.inl hnone, .inr (.inl rfl)⟩) (by rw [howner]; rfl)
          hrunning fun hnone => by cases hnone
      · refine h.owning s.acceptor rfl (.inl rfl) (by rw [howner]; rfl) ?_ fun hnone =>
          .inl ((h.unlisted hnone).resolve_right (by rw [howner]; simp))
        show false = s.acceptor.isSome
        rw [hnone]
        rfl
    · cases hstep
  | stop =>
    dsimp only at hstep
    split at hstep
    · rename_i howner
      cases hstep
      exact h.owning s.acceptor rfl (.inl rfl) (by rw [howner]; rfl) rfl fun hnone =>
        .inl ((h.unlisted hnone).resolve_right (by rw [howner]; simp))
    · cases hstep
  | proceed => exact h.stopping hstep
  | accept granted =>
    obtain ⟨s₁, hbind, heq⟩ := Option.map_eq_some_iff.1 hstep
    obtain rfl : s₁ = s' := congrArg Prod.fst heq
    obtain ⟨stage, hstage, haccept⟩ := Option.bind_eq_some_iff.1 hbind
    exact h.accept hstage haccept
  | session place granted =>
    obtain ⟨s₁, hbind, heq⟩ := Option.map_eq_some_iff.1 hstep
    obtain rfl : s₁ = s' := congrArg Prod.fst heq
    obtain ⟨c, hc, hsession⟩ := Option.bind_eq_some_iff.1 hbind
    exact h.session hc hsession

theorem run_inv (hrun : Run (step maxSessions) (fun _ _ => True) {} s) : s.Inv maxSessions :=
  hrun.inv (fun _ _ _ _ _ h hstep => h.step hstep) (start_inv maxSessions)

/-- The threads of a server, whatever turns they take. -/
theorem threads_accounted (hrun : Run (step maxSessions) (fun _ _ => True) {} s) :
    s.Accounted maxSessions :=
  (run_inv hrun).accounted

/-- A server that is told to stop while it serves a session and has just turned a second one away. -/
def stopped : List ServerEvent :=
  [.start true, .launch true] ++ List.replicate 8 (.accept true) ++ List.replicate 6 (.accept true) ++ [.stop]

/-- The session ends, and the call returns. -/
def left : List ServerEvent :=
  [.session 0 false, .accept true, .proceed, .proceed, .proceed, .session 0 true, .session 0 true,
   .proceed, .proceed]

theorem stopped_accounted : ∃ s : Server, s.owner = .idle ∧ s.running = false ∧ s.made.length = 1 ∧
    s.Accounted 1 := by
  obtain ⟨s, hs, hends⟩ := exists_run_of_runAll (show ((runAll (step 1) {} (stopped ++ left)).any
    fun s => s.owner == .idle && (s.running == false && s.made.length == 1)) = true by decide)
  simp only [Bool.and_eq_true, beq_iff_eq] at hends
  exact ⟨s, hends.1, hends.2.1, hends.2.2, threads_accounted (runAll_run hs)⟩

end Server

end AdaptiveRouting
