import AdaptiveRouting.Ids

/-!
# The server

How a coordinator serves its connections: one thread accepts them and starts a thread for each, the
threads of the sessions end on their own and are joined by the accepting one, and the owner starts and
stops the whole. The threads share two locks and a few atomic values, and take steps of their own, each of
which touches what is shared at most once.
-/

namespace AdaptiveRouting

/-- Where the thread of a session stands: at the top of the loop of `run_session`, about to read the
running flag; with a frame dispatched and its response in `Socket::send_all`, which goes on for as long
as the socket stays unwritable; with its publisher fenced and its socket closed; flagged as finished; and
out of the count. -/
inductive SessionStage
  | serving
  | answering
  | closed
  | finished
  | exited
  deriving DecidableEq

/-- One accepted connection: whether its socket is open, where the thread that was started for it stands,
and whether the session holds a thread to be joined. -/
structure SessionThread where
  index : Nat
  socket : Bool := true
  thread : Option SessionStage := none
  joinable : Bool := false
  deriving DecidableEq

/-- Where the accepting thread stands. Sessions are named by their place in `Server.made`. -/
inductive AcceptStage
  /-- About to read the running flag. -/
  | polling
  /-- Scanning the sessions, of which some were kept and others taken out. -/
  | reaping (kept : Nat) (finished : List Nat)
  | joining (finished : List Nat)
  | accepting
  /-- With a connection, about to read the count of live sessions. -/
  | accepted
  | counting (session : Nat)
  | spawning (session : Nat)
  /-- The thread runs, and is not yet stored in its session. -/
  | storing (session : Nat)
  /-- No thread could be started, and the count is corrected. -/
  | withdrawing (session : Nat)
  | ended
  deriving DecidableEq

/-- Where the owner's call of `start` or `stop` stands. -/
inductive OwnerStage
  | idle
  | launching
  | closing
  | joiningAcceptor
  | collecting
  | joining (sessions : List Nat)
  deriving DecidableEq

/-- The server. `acceptor` is the thread to be joined, if there is one, and `made` are the sessions
that were ever made. The counter is a number: the 64-bit one of the source wraps after 2^64 sessions. -/
structure Server where
  running : Bool := false
  listening : Bool := false
  liveSessions : Nat := 0
  sessionCounter : Nat := 0
  sessions : List Nat := []
  made : List SessionThread := []
  acceptor : Option AcceptStage := none
  owner : OwnerStage := .idle
  deriving DecidableEq

/-- The next thing one of the threads does. What the system decides comes with it: whether the store loads
and the listener opens, whether a connection is there, whether a thread can be started, whether a session
is sent a frame and its response goes out. -/
inductive ServerEvent
  | start (listens : Bool)
  | launch (granted : Bool)
  | stop
  | proceed
  | accept (granted : Bool)
  | session (place : Nat) (granted : Bool)
  deriving DecidableEq

namespace Server

variable (maxSessions : Nat) (s : Server)

def isFinished (c : SessionThread) : Bool := c.thread = some .finished || c.thread = some .exited

/-- `join`: waits until the thread is over. -/
def join (place : Nat) : Option Server :=
  s.made[place]?.bind fun c =>
    if c.joinable then
      if c.thread = some .exited then some { s with made := s.made.set place { c with joinable := false } }
      else none
    else some s

def close (place : Nat) : Server :=
  { s with made := s.made.modify place fun c => { c with socket := false } }

/-- The next step of `accept_loop` and `reap_finished_sessions`. -/
def acceptStep (granted : Bool) : AcceptStage → Option Server
  | .polling => some { s with acceptor := some (if s.running then .reaping 0 [] else .ended) }
  | .reaping kept finished =>
    match s.sessions[kept]? with
    | none => some { s with acceptor := some (.joining finished) }
    | some place =>
      s.made[place]?.map fun c =>
        if isFinished c then
          { s with
            sessions := s.sessions.eraseIdx kept, acceptor := some (.reaping kept (finished ++ [place])) }
        else { s with acceptor := some (.reaping (kept + 1) finished) }
  | .joining [] => some { s with acceptor := some .accepting }
  | .joining (place :: rest) => (s.join place).map fun s => { s with acceptor := some (.joining rest) }
  | .accepting =>
    some { s with acceptor := some (if granted && s.listening then .accepted else .polling) }
  | .accepted =>
    if maxSessions ≤ s.liveSessions then some { s with acceptor := some .polling }
    else
      some { s with
        sessionCounter := s.sessionCounter + 1
        made := s.made ++ [{ index := s.sessionCounter + 1 }]
        sessions := s.sessions ++ [s.made.length], acceptor := some (.counting s.made.length) }
  | .counting place =>
    some { s with liveSessions := s.liveSessions + 1, acceptor := some (.spawning place) }
  | .spawning place =>
    if granted then
      some { s with
        made := s.made.modify place fun c => { c with thread := some .serving }
        acceptor := some (.storing place) }
    else some { s with liveSessions := s.liveSessions - 1, acceptor := some (.withdrawing place) }
  | .storing place =>
    some { s with
      made := s.made.modify place fun c => { c with joinable := true }, acceptor := some .polling }
  | .withdrawing place =>
    some { ({ s with sessions := s.sessions.filter (· != place) } : Server).close place with
      acceptor := some .polling }
  | .ended => none

/-- The next step of `stop`, and whether it returns. -/
def stopStep : OwnerStage → Option (Server × Bool)
  | .closing => some ({ s with listening := false, owner := .joiningAcceptor }, false)
  | .joiningAcceptor =>
    match s.acceptor with
    | none | some .ended => some ({ s with acceptor := none, owner := .collecting }, false)
    | some _ => none
  | .collecting => some ({ s with sessions := [], owner := .joining s.sessions }, false)
  | .joining [] => some ({ s with owner := .idle }, true)
  | .joining (place :: rest) =>
    (s.join place).map fun s => ({ s.close place with owner := .joining rest }, false)
  | .idle | .launching => none

/-- The next step of `session_loop`. A session that is sent no frame to answer ends, as does one whose
response does not go out. -/
def sessionStep (place : Nat) (granted : Bool) (c : SessionThread) : Option Server :=
  match c.thread with
  | some .serving =>
    if granted then
      if s.running then some { s with made := s.made.set place { c with thread := some .answering } }
      else none
    else some { s with made := s.made.set place { c with socket := false, thread := some .closed } }
  | some .answering =>
    if granted then some { s with made := s.made.set place { c with thread := some .serving } }
    else some { s with made := s.made.set place { c with socket := false, thread := some .closed } }
  | some .closed => some { s with made := s.made.set place { c with thread := some .finished } }
  | some .finished =>
    some { s with
      made := s.made.set place { c with thread := some .exited }, liveSessions := s.liveSessions - 1 }
  | some .exited | none => none

/-- A step, and whether a call of the owner returns with it. -/
def step (event : ServerEvent) : Option (Server × Bool) :=
  match event with
  | .start listens =>
    if s.owner = .idle then
      if s.running || !listens then some (s, true)
      else some ({ s with running := true, listening := true, owner := .launching }, false)
    else none
  | .launch granted =>
    if s.owner = .launching then
      some (if granted then { s with acceptor := some .polling, owner := .idle }
        else { s with running := false, listening := false, owner := .idle }, true)
    else none
  | .stop =>
    if s.owner = .idle then some ({ s with running := false, owner := .closing }, false) else none
  | .proceed => s.stopStep s.owner
  | .accept granted => (s.acceptor.bind (s.acceptStep maxSessions granted)).map fun s => (s, false)
  | .session place granted =>
    (s.made[place]?.bind (s.sessionStep place granted)).map fun s => (s, false)

end Server

end AdaptiveRouting
