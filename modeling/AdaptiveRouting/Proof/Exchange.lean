import AdaptiveRouting.Lib.StopAndWait
import AdaptiveRouting.Proof.Messages
import AdaptiveRouting.Proof.Frames
import AdaptiveRouting.Proof.Scenario
import AdaptiveRouting.Wire.Exchange

/-!
# Exchanges

An exchange is a stop-and-wait dialogue (`step_outline`): the bytes between its ends are those of the
requests that were not served and of the responses that were not read (`Carries`). What a client returns
for a request is therefore the response to that request (`responses_pair`), although the client does not
look at its sequence number, and what it reads of an operation is what the engine made of it
(`outcome_faithful`).
-/

namespace AdaptiveRouting

open Runs

namespace Wire

/-! ## Streams of frames -/

section
variable {frame : Frame} {bound bound' : UInt64} {buffer rest : Text} {consumed : Nat}

/-- A frame that is decoded under some bound is decoded under the greatest. -/
theorem Frame.Decodable.widen (h : frame.Decodable bound) : frame.Decodable 0xFFFFFFFFFFFFFFFF := by
  have hroom : 0xFFFFFFFF ≤ maximumPayload 0xFFFFFFFFFFFFFFFF := by decide
  exact ⟨h.valid, h.version, h.epoch, Nat.le_trans h.valid.length_le hroom⟩

/-- What is decoded off the front of a stream of frames is the first of them, whatever the two ends take
for the bound. -/
theorem decoded_front {frames : List Frame} (hframes : ∀ f ∈ frames, f.Valid ∧ f.Encodable bound)
    (hdecode : decodeFrame buffer bound' = .ok (frame, consumed))
    (hbuffer : buffer ++ rest = frames.flatMap Frame.bytes) :
    ∃ later, frames = frame :: later ∧ buffer.drop consumed ++ rest = later.flatMap Frame.bytes := by
  obtain ⟨hframe, rfl, behind, rfl⟩ := decodeFrame_ok_iff.1 hdecode
  cases frames with
  | nil =>
    have hlength := congrArg List.length hbuffer
    simp only [List.append_assoc, List.flatMap_nil, List.length_append, List.length_nil,
      frame.bytes_length, frameHeaderBytes] at hlength
    omega
  | cons first later =>
    obtain ⟨hvalid, hencodable⟩ := hframes first List.mem_cons_self
    have hfirst := decodeFrame_bytes (hencodable.decodable hvalid).widen (later.flatMap Frame.bytes)
    rw [← List.flatMap_cons, ← hbuffer, List.append_assoc, decodeFrame_bytes hframe.widen] at hfirst
    cases hfirst
    rw [List.append_assoc, List.flatMap_cons] at hbuffer
    exact ⟨later, rfl, by rw [List.drop_left]; exact List.append_cancel_left hbuffer⟩

end

/-! ## Turns of a session -/

namespace Connection

variable {σ : Type} {limits : Limits} {dispatch : σ → Frame → σ × Disposition} {c : Connection σ}
  {turn : Turn}

/-- What a turn does: it dispatches the frame at the front of the buffer, or appends what the socket
yields, if anything, and may end the session. -/
inductive Effect (limits : Limits) (dispatch : σ → Frame → σ × Disposition) (c : Connection σ)
    (turn : Turn) (c' : Connection σ) : Prop
  | dispatched {frame : Frame} {consumed : Nat} (live : c.ended = none)
      (decoded : decodeFrame c.buffer limits.maxFrameBytes = .ok (frame, consumed))
      (state : c'.state = (dispatch c.state frame).1) (buffer : c'.buffer = c.buffer.drop consumed)
      (ended : c'.ended = endOf (dispatch c.state frame).2) (taken : c'.taken = c.taken)
  | received (bytes : Text) (yielded : bytes = [] ∨ turn.received = .data bytes)
      (state : c'.state = c.state) (buffer : c'.buffer = c.buffer ++ bytes)
      (ended : c'.ended = none → c.ended = none) (taken : c'.taken = c.taken ++ bytes)

theorem Effect.still {c' : Connection σ} (hstate : c'.state = c.state) (hbuffer : c'.buffer = c.buffer)
    (htaken : c'.taken = c.taken) (hended : c'.ended = none → c.ended = none) :
    Effect limits dispatch c turn c' :=
  .received [] (.inl rfl) hstate (by simp [hbuffer]) hended (by simp [htaken])

theorem Effect.receive (deadline : Option Ticks) :
    Effect limits dispatch c turn (receive { c with deadline } turn.received) := by
  cases hreceived : turn.received with
  | data bytes => exact .received bytes (.inr hreceived) rfl rfl (fun h => h) rfl
  | stalled => exact .still rfl rfl rfl fun h => h
  | closed => exact .still rfl rfl rfl fun h => h
  | failed error => exact .still rfl rfl rfl fun h => by cases h

variable (limits dispatch c turn) in
theorem iterate_effect : Effect limits dispatch c turn (iterate limits dispatch c turn) := by
  unfold iterate
  split
  · exact .still rfl rfl rfl fun h => h
  · rename_i hlive
    have hnone : c.ended = none := by simpa using hlive
    split
    · exact .still rfl rfl rfl fun h => by cases h
    · split
      · rename_i frame consumed hdecode
        exact .dispatched hnone hdecode rfl rfl rfl rfl
      · unfold await
        split
        · exact .still rfl rfl rfl fun h => by cases h
        · split
          · exact Effect.receive none
          · split
            · exact Effect.receive _
            · split
              · exact .still rfl rfl rfl fun h => by cases h
              · exact Effect.receive c.deadline
      · exact .still rfl rfl rfl fun h => by cases h

end Connection

end Wire

open Wire

/-! ## Writing -/

section
variable {limits : Limits} {frame : Wire.Frame}

/-- A frame that is not sent in part is sent or refused. -/
theorem writeResponse_whole (limits : Limits) (frame : Wire.Frame) :
    writeResponse limits frame none = ([], false) ∨
      frame.Encodable limits.maxFrameBytes ∧ writeResponse limits frame none = (frame.bytes, true) := by
  unfold writeResponse
  split
  · exact .inl rfl
  · split
    · exact .inl rfl
    · rename_i bytes hencode
      obtain ⟨hframe, rfl⟩ := encodeFrame_iff.1 hencode
      exact .inr ⟨hframe, rfl⟩

/-- The bytes of the first frame that can be sent. -/
theorem writeFirst_whole {stops : List (Option Nat)} (hstops : ∀ stop ∈ stops, stop = none)
    (frames : List Wire.Frame) :
    writeFirst limits frames stops =
      (frames.find? fun frame => (writeResponse limits frame none).2).elim [] Wire.Frame.bytes := by
  induction frames generalizing stops with
  | nil => rfl
  | cons frame rest ih =>
    have hhead : stops.head?.join = none := by
      cases stops with
      | nil => rfl
      | cons stop stops => rw [hstops stop List.mem_cons_self]; rfl
    have htail : ∀ stop ∈ stops.tail, stop = none := fun stop h => hstops stop (List.mem_of_mem_tail h)
    unfold writeFirst
    rw [hhead, List.find?_cons]
    rcases writeResponse_whole limits frame with hrefused | ⟨-, hwritten⟩
    · rw [hrefused]
      exact ih htail
    · rw [hwritten]
      rfl

theorem responseFrame_valid {epoch : CoordinatorEpoch} {sequence : UInt64} {id : MessageId}
    {payload : Text} (h : payload.length ≤ 0xFFFFFFFF) :
    (responseFrame epoch sequence id payload).Valid :=
  @length_toUInt32 (responseFrame epoch sequence id payload) h

/-- Every frame of a reply is a response under the number of the request. -/
theorem Reply.frames_built {e : Engine} {now : Ticks} {request : Wire.Frame} {reply : Reply}
    (h : frame ∈ reply.frames limits e now request) : ∃ id payload,
      frame = responseFrame e.state.epoch request.header.sequence id payload := by
  have herror (outcome : Outcome) (detail : Text)
      (h : frame ∈ respondError e.state.epoch request.header.sequence outcome detail) :
      ∃ id payload, frame = responseFrame e.state.epoch request.header.sequence id payload :=
    ⟨_, _, List.mem_singleton.1 h⟩
  have hrespond (message : ResultMessage)
      (h : frame ∈ respond e.state.epoch request.header.sequence message) :
      ∃ id payload, frame = responseFrame e.state.epoch request.header.sequence id payload := by
    rcases List.mem_cons.1 h with h | h
    · exact ⟨_, _, h⟩
    · exact herror _ _ h
  cases reply with
  | none => cases h
  | greeting => exact ⟨_, _, List.mem_singleton.1 h⟩
  | report =>
    unfold Reply.frames at h
    cases hreport : request.report limits e now with
    | none => simp [hreport] at h
    | some message => exact hrespond message (by simpa [hreport] using h)
  | error outcome detail => exact herror outcome detail h
  | answer answer =>
    cases answer with
    | result result => exact hrespond _ h
    | ticket ticket =>
      unfold Reply.frames at h
      cases hmessage : EvaluateMessage.decode request.payload with
      | none => simp [hmessage] at h
      | some message => exact hrespond _ (by simpa [hmessage] using h)
    | view view =>
      unfold Reply.frames at h
      cases view with
      | none => simp at h
      | some snapshot =>
        cases hmessage : SnapshotRequestMessage.decode request.payload with
        | none => simp [hmessage] at h
        | some message =>
          rw [hmessage] at h
          rcases List.mem_cons.1 h with h | h
          · exact ⟨_, _, h⟩
          · exact herror _ _ h

/-- A request that is not sent in part is sent or refused. -/
theorem writeFrame_whole (config : ClientConfig) (client : Client) (id : MessageId) (payload : Text) :
    ((client.writeFrame config (client.frame id payload) none).1 = [] ∧
      (client.writeFrame config (client.frame id payload) none).2.isSome = true) ∨
    (client.frame id payload).Valid ∧
      (client.frame id payload).Encodable config.limits.maxFrameBytes ∧
      client.writeFrame config (client.frame id payload) none =
        ((client.frame id payload).bytes, none) := by
  unfold Client.writeFrame
  split
  · exact .inl ⟨rfl, rfl⟩
  · rename_i hlength
    dsimp only
    split
    · exact .inl ⟨rfl, rfl⟩
    · rename_i bytes hencode
      have houtgoing : (client.frame id payload).header.epoch = client.epoch := rfl
      simp only [houtgoing, ite_self] at hencode
      obtain ⟨hframe, rfl⟩ := encodeFrame_iff.1 hencode
      exact .inr ⟨@length_toUInt32 (client.frame id payload) (Nat.le_of_not_lt hlength),
        hframe, rfl⟩

end

/-! ## The dialogue -/

/-- A request as it was served, with its response. -/
def Entry.pair (entry : Entry) : Wire.Frame × Option Wire.Frame := (entry.request, entry.response)

/-- The handler of the request was run on some state of the coordinator, what it returned was saved and
reported, and the response is the first frame of the report that can be sent. -/
def Entry.Made (config : EngineConfig) (entry : Entry) : Prop :=
  ∃ (c : Coordinator) (session : Session) (meets : Circumstance),
    entry.request.serve config c.engine session meets.begun meets.now meets.accepted =
      some entry.served ∧
    entry.reported =
      { c with engine := entry.served.engine }.respond meets.saving entry.served.reply ∧
    entry.response =
      (entry.reported.2.frames config.limits entry.served.engine meets.now entry.request).find?
        fun frame => (writeResponse config.limits frame none).2

/-- The response to a request can be sent, and carries the number of the request. -/
theorem Entry.Made.response {config : EngineConfig} {entry : Entry} (h : entry.Made config)
    {response : Wire.Frame} (hresponse : entry.response = some response) :
    response.Valid ∧ response.Encodable config.limits.maxFrameBytes ∧
      response.header.sequence = entry.request.header.sequence := by
  obtain ⟨c, session, meets, -, -, hfind⟩ := h
  rw [hresponse] at hfind
  have hsent := List.find?_some hfind.symm
  obtain ⟨id, payload, rfl⟩ := Reply.frames_built (List.mem_of_find?_eq_some hfind.symm)
  rcases writeResponse_whole config.limits (responseFrame entry.served.engine.state.epoch
      entry.request.header.sequence id payload) with hrefused | ⟨hframe, -⟩
  · simp [hrefused] at hsent
  · exact ⟨responseFrame_valid hframe.length, hframe, rfl⟩

namespace Exchange

def outline (x : Exchange) : StopAndWait.State Wire.Frame Wire.Frame where
  requested := x.requested
  served := x.server.state.log.map Entry.pair
  read := x.read
  waiting := x.call.map (·.request)
  connected := x.client.connected
  returned := x.returned

/-- The links carry the bytes of the requests that were not served and of the responses that were not
read, and nothing else. -/
structure Carries (client : ClientConfig) (config : EngineConfig) (x : Exchange) : Prop where
  requests : ∀ frame ∈ x.requested, frame.Valid ∧ frame.Encodable client.limits.maxFrameBytes
  made : ∀ entry ∈ x.server.state.log, entry.Made config
  up : x.server.ended = none → x.server.buffer ++ x.uplink =
    (x.requested.drop x.server.state.log.length).flatMap Wire.Frame.bytes
  down : x.client.connected = true → x.client.buffer ++ x.server.state.downlink =
    ((StopAndWait.responses x.outline.served).drop x.read).flatMap Wire.Frame.bytes

section
variable {client : ClientConfig} {config : EngineConfig} {x x' : Exchange}

theorem start_carries (c : Client) (coordinator : Coordinator) (session : Session) :
    Carries client config (start c coordinator session) where
  requests := fun _ h => by cases h
  made := fun _ h => by cases h
  up := fun _ => rfl
  down := fun _ => rfl

theorem start_inv (c : Client) (coordinator : Coordinator) (session : Session) :
    StopAndWait.Inv (start c coordinator session).outline := .start

/-- Every response that was sent can be decoded under the bound of the coordinator. -/
theorem Carries.responses (h : Carries client config x) :
    ∀ frame ∈ StopAndWait.responses x.outline.served,
      frame.Valid ∧ frame.Encodable config.limits.maxFrameBytes := by
  intro frame hframe
  obtain ⟨pair, hpair, hsome⟩ := List.mem_filterMap.1 hframe
  obtain ⟨entry, hentry, rfl⟩ := List.mem_map.1 hpair
  obtain ⟨hvalid, hencodable, -⟩ := (h.made entry hentry).response hsome
  exact ⟨hvalid, hencodable⟩

/-- The client sends nothing new, and closes its socket if it does anything. -/
theorem Carries.quiet (h : Carries client config x) (hrequested : x'.requested = x.requested)
    (hserver : x'.server = x.server) (huplink : x'.uplink = x.uplink) (hread : x'.read = x.read)
    (hbuffer : x'.client.connected = true → x.client.connected = true ∧
      x'.client.buffer = x.client.buffer) : Carries client config x' where
  requests := by rw [hrequested]; exact h.requests
  made := by rw [hserver]; exact h.made
  up := by rw [hserver, huplink, hrequested]; exact h.up
  down := by
    intro hconnected
    obtain ⟨hbefore, hsame⟩ := hbuffer hconnected
    unfold outline
    rw [hsame, hserver, hread]
    exact h.down hbefore

/-- A request goes out behind the others. -/
theorem Carries.sent (h : Carries client config x) (hinv : StopAndWait.Inv x.outline)
    {frame : Wire.Frame} (hvalid : frame.Valid)
    (hencodable : frame.Encodable client.limits.maxFrameBytes)
    (hrequested : x'.requested = x.requested ++ [frame]) (hserver : x'.server = x.server)
    (huplink : x'.uplink = x.uplink ++ frame.bytes) (hread : x'.read = x.read)
    (hbuffer : x'.client.connected = true → x.client.connected = true ∧
      x'.client.buffer = x.client.buffer) : Carries client config x' where
  requests := by
    intro f hf
    rw [hrequested] at hf
    rcases List.mem_append.1 hf with hf | hf
    · exact h.requests f hf
    · rw [List.mem_singleton.1 hf]
      exact ⟨hvalid, hencodable⟩
  made := by rw [hserver]; exact h.made
  up := by
    intro hlive
    have hserved : x.server.state.log.length ≤ x.requested.length := by
      have hlength := hinv.inOrder.length_le
      simpa [outline] using hlength
    rw [hserver] at hlive ⊢
    rw [huplink, hrequested, List.drop_append_of_le_length hserved, List.flatMap_append,
      ← h.up hlive, List.append_assoc]
    simp
  down := by
    intro hconnected
    obtain ⟨hbefore, hsame⟩ := hbuffer hconnected
    unfold outline
    rw [hsame, hserver, hread]
    exact h.down hbefore

/-- A request is made, or nothing happens. -/
theorem submit_outline (h : Carries client config x) (hinv : StopAndWait.Inv x.outline)
    (hidle : x.call = none) (id : MessageId) (payload : Text) (skipAck : Bool) (now : Ticks) :
    StopAndWait.Step x.outline (x.submit client id payload skipAck now none).1.outline ∧
      Carries client config (x.submit client id payload skipAck now none).1 := by
  cases hconnected : x.client.connected with
  | false =>
    have hsubmit : x.client.submit client id payload skipAck now none = (x.client, [], .error
        (Text.concat ["the client is not connected to ", client.endpoint.render])) := by
      simp [Client.submit, hconnected]
    unfold submit
    rw [hsubmit]
    exact ⟨.stay, h.quiet rfl rfl (List.append_nil _) rfl fun h => ⟨h, rfl⟩⟩
  | true =>
    unfold submit Client.submit
    rw [if_neg (by simp [hconnected])]
    rcases writeFrame_whole client x.client id payload with
      ⟨hnothing, herror⟩ | ⟨hvalid, hencodable, hwritten⟩
    · obtain ⟨error, herror⟩ := Option.isSome_iff_exists.1 herror
      dsimp only
      rw [herror, hnothing]
      exact ⟨.stay, h.quiet rfl rfl (List.append_nil _) rfl fun h => ⟨h, rfl⟩⟩
    · dsimp only
      rw [hwritten]
      refine ⟨?_, h.sent hinv hvalid hencodable rfl rfl rfl rfl fun h => ⟨h, rfl⟩⟩
      exact StopAndWait.Step.ask (s := x.outline) (x.client.frame id payload) hconnected
        (by simp [outline, hidle])

/-- The last request, or none. -/
theorem leave_outline (h : Carries client config x) (hinv : StopAndWait.Inv x.outline)
    (hidle : x.call = none) : StopAndWait.Step x.outline (x.leave client none).outline ∧
      Carries client config (x.leave client none) := by
  unfold leave
  split
  · rename_i hconnected
    rcases writeFrame_whole client x.client .bye [] with
      ⟨hnothing, herror⟩ | ⟨hvalid, hencodable, hwritten⟩
    · obtain ⟨error, herror⟩ := Option.isSome_iff_exists.1 herror
      dsimp only
      rw [herror, hnothing]
      refine ⟨?_, h.quiet rfl rfl (List.append_nil _) rfl fun h => by cases h⟩
      have hgiveUp := StopAndWait.Step.giveUp (s := x.outline)
      simpa [outline, hidle, Client.close] using hgiveUp
    · dsimp only
      rw [hwritten]
      refine ⟨?_, h.sent hinv hvalid hencodable rfl rfl rfl rfl fun h => by cases h⟩
      exact StopAndWait.Step.farewell (s := x.outline) (x.client.frame .bye []) hconnected
        (by simp [outline, hidle])
  · refine ⟨?_, h.quiet rfl rfl rfl rfl fun h => by cases h⟩
    have hgiveUp := StopAndWait.Step.giveUp (s := x.outline)
    simpa [outline, hidle, Client.close] using hgiveUp

@[simp] theorem absorbEpoch_connected (c : Client) (epoch : CoordinatorEpoch) :
    (c.absorbEpoch epoch).connected = c.connected := by
  unfold Client.absorbEpoch
  split <;> rfl

@[simp] theorem absorbEpoch_buffer (c : Client) (epoch : CoordinatorEpoch) :
    (c.absorbEpoch epoch).buffer = c.buffer := by
  unfold Client.absorbEpoch
  split <;> rfl

/-- What a greeting learns does not concern its connection. -/
theorem greeted_keeps (c : Client) (response : Wire.Frame) :
    (c.greeted response).1.connected = c.connected ∧ (c.greeted response).1.buffer = c.buffer := by
  unfold Client.greeted
  split
  · exact ⟨rfl, rfl⟩
  · split
    · exact ⟨rfl, rfl⟩
    · split
      · exact ⟨rfl, rfl⟩
      · dsimp only
        split <;> exact ⟨absorbEpoch_connected .., absorbEpoch_buffer ..⟩

variable {call : Call} {now later : Ticks} {received : Received}

/-- A turn of the client that gives the call up. -/
theorem poll_gives_up (h : Carries client config x) {taken : Nat}
    (hpoll : x'.requested = x.requested ∧ x'.uplink = x.uplink ∧ x'.read = x.read ∧
      x'.returned = x.returned ∧ x'.call = none ∧ x'.client.connected = false ∧
      x'.server = { x.server with state := { x.server.state with
        downlink := x.server.state.downlink.drop taken } }) :
    StopAndWait.Step x.outline x'.outline ∧ Carries client config x' := by
  obtain ⟨hrequested, huplink, hread, hreturned, hcall, hconnected, hserver⟩ := hpoll
  constructor
  · have houtline : x'.outline = { x.outline with waiting := none, connected := false } := by
      simp [outline, hrequested, hread, hreturned, hcall, hconnected, hserver]
    rw [houtline]
    exact .giveUp
  · refine ⟨by rw [hrequested]; exact h.requests, by rw [hserver]; exact h.made, ?_, ?_⟩
    · rw [hserver, huplink, hrequested]
      exact h.up
    · intro hopen
      rw [hconnected] at hopen
      cases hopen

/-- A turn of the client that takes a frame off its buffer: it is the next response. -/
theorem poll_takes (h : Carries client config x) (hinv : StopAndWait.Inv x.outline)
    (hcall : x.call = some call) {response : Wire.Frame} {consumed : Nat}
    (hdecode : decodeFrame x.client.buffer client.limits.maxFrameBytes = .ok (response, consumed)) :
    StopAndWait.Step x.outline (x.poll client call now later received).1.outline ∧
      Carries client config (x.poll client call now later received).1 := by
  have hwaiting : x.outline.waiting = some call.request := by simp [outline, hcall]
  have hconnected : x.client.connected = true := hinv.connected hwaiting
  obtain ⟨behind, hdrop, hbuffer⟩ := decoded_front
    (fun f hf => h.responses f (List.mem_of_mem_drop hf)) hdecode (h.down hconnected)
  have hnext : (StopAndWait.responses x.outline.served)[x.outline.read]? = some response := by
    have hget := congrArg (·[0]?) hdrop
    simpa [outline, List.getElem?_drop] using hget
  have hbehind : (StopAndWait.responses x.outline.served).drop (x.read + 1) = behind := by
    have htail := congrArg List.tail hdrop
    simpa using htail
  have hcarries (c : Client) (hsame : c.buffer = x.client.buffer.drop consumed) (call' : Option Call)
      (returned : List (Wire.Frame × Wire.Frame)) :
      Carries client config { x with client := c, call := call', read := x.read + 1, returned } := by
    refine ⟨h.requests, h.made, h.up, fun _ => ?_⟩
    change c.buffer ++ x.server.state.downlink =
      ((StopAndWait.responses x.outline.served).drop (x.read + 1)).flatMap Wire.Frame.bytes
    rw [hsame, hbehind, hbuffer]
  unfold poll Client.poll Client.reads
  rw [hdecode]
  dsimp only [Except.isOk, Except.toBool]
  simp only [Bool.false_eq_true, if_false, if_true, List.length_nil, List.drop_zero]
  unfold settle
  split
  · rename_i hprogress
    refine ⟨?_, hcarries _ (absorbEpoch_buffer ..) _ _⟩
    have hskip := StopAndWait.Step.skip call.request response hwaiting hnext
    simpa [outline] using hskip
  · rename_i hprogress
    dsimp only at hprogress
    split at hprogress <;> cases hprogress
  · rename_i response' hprogress
    dsimp only at hprogress
    have hsame : response = response' := by
      split at hprogress <;> cases hprogress
      rfl
    subst hsame
    have hgive := StopAndWait.Step.give call.request response hwaiting hnext
    split
    · refine ⟨?_, hcarries _ (absorbEpoch_buffer ..) _ _⟩
      simpa [outline] using hgive
    · obtain ⟨hopen, hsame⟩ := greeted_keeps
        ({ x.client with buffer := x.client.buffer.drop consumed }.absorbEpoch response.header.epoch)
        response
      refine ⟨?_, hcarries _ (hsame.trans (absorbEpoch_buffer ..)) _ _⟩
      simpa [outline, hopen] using hgive

/-- A turn of the client: the next response, more bytes, nothing, or the end of the call. -/
theorem poll_outline (h : Carries client config x) (hinv : StopAndWait.Inv x.outline)
    (hcall : x.call = some call) (harrives : received.arrives x.server.state.downlink = true) :
    StopAndWait.Step x.outline (x.poll client call now later received).1.outline ∧
      Carries client config (x.poll client call now later received).1 := by
  cases hdecode : decodeFrame x.client.buffer client.limits.maxFrameBytes with
  | ok decoded => exact poll_takes h hinv hcall hdecode
  | error status =>
    by_cases hmore : status = .incomplete ∧ now < call.deadline
    · obtain ⟨rfl, htimely⟩ := hmore
      have hreads : x.client.reads client call now = true := by
        unfold Client.reads
        rw [hdecode]
        exact decide_eq_true htimely
      have hpoll : x.client.poll client call now later received =
          x.client.receive client call later received := by
        unfold Client.poll
        rw [hdecode]
        exact if_neg (by simpa using htimely)
      unfold poll
      rw [hdecode, hreads, hpoll]
      cases received with
      | data bytes =>
        refine ⟨?_, h.requests, h.made, h.up, fun hconnected => ?_⟩
        · exact StopAndWait.Step.stay
        · obtain ⟨behind, hbehind⟩ := List.isPrefixOf_iff_prefix.1 harrives
          have hdown := h.down hconnected
          change (x.client.buffer ++ bytes) ++ x.server.state.downlink.drop bytes.length =
            ((StopAndWait.responses x.outline.served).drop x.read).flatMap Wire.Frame.bytes
          rw [← hdown, ← hbehind, List.drop_left, List.append_assoc]
      | stalled =>
        unfold Client.receive
        dsimp only
        by_cases hlater : later ≠ call.started
        · rw [if_pos hlater]
          exact poll_gives_up h ⟨rfl, rfl, rfl, rfl, rfl, rfl, rfl⟩
        · rw [if_neg hlater]
          exact ⟨.stay, h.requests, h.made, h.up, h.down⟩
      | closed => exact poll_gives_up h ⟨rfl, rfl, rfl, rfl, rfl, rfl, rfl⟩
      | failed error => exact poll_gives_up h ⟨rfl, rfl, rfl, rfl, rfl, rfl, rfl⟩
    · have hpoll : ∃ error, x.client.poll client call now later received =
          (x.client.abandon, .failed error) := by
        unfold Client.poll
        rw [hdecode]
        cases status with
        | incomplete =>
          have hlate : ¬ now < call.deadline := fun htimely => hmore ⟨rfl, htimely⟩
          exact ⟨_, if_pos (by simpa using hlate)⟩
        | _ => exact ⟨_, rfl⟩
      obtain ⟨error, hpoll⟩ := hpoll
      unfold poll
      rw [hdecode, hpoll]
      exact poll_gives_up h ⟨rfl, rfl, rfl, rfl, rfl, rfl, rfl⟩

/-- A turn of the session: it serves the next request, or takes bytes in. -/
theorem turn_outline (h : Carries client config x) (hinv : StopAndWait.Inv x.outline) {turn : Turn}
    {meets : Circumstance} (hstops : ∀ stop ∈ meets.stops, stop = none)
    (harrives : turn.received.arrives x.uplink = true) :
    StopAndWait.Step x.outline (x.turn config turn meets).outline ∧
      Carries client config (x.turn config turn meets) := by
  have heffect := Connection.iterate_effect config.limits (Host.dispatch config meets) x.server turn
  unfold Exchange.turn
  generalize x.server.iterate config.limits (Host.dispatch config meets) turn = server at heffect ⊢
  cases heffect with
  | received bytes hyielded hstate hbuffer hended htaken =>
    have hlength : server.taken.length - x.server.taken.length = bytes.length := by
      rw [htaken, List.length_append, Nat.add_sub_cancel_left]
    have hlink : bytes ++ x.uplink.drop bytes.length = x.uplink := by
      rcases hyielded with rfl | hreceived
      · rfl
      · rw [hreceived] at harrives
        obtain ⟨behind, hbehind⟩ := List.isPrefixOf_iff_prefix.1 harrives
        rw [← hbehind, List.drop_left]
    constructor
    · have houtline : Exchange.outline { x with
          server, uplink := x.uplink.drop (server.taken.length - x.server.taken.length) } =
            x.outline := by
        simp [outline, hstate]
      rw [houtline]
      exact .stay
    · refine ⟨h.requests, by simpa [hstate] using h.made, fun hlive => ?_, ?_⟩
      · simp only [hstate, hbuffer, hlength, List.append_assoc, hlink]
        exact h.up (hended hlive)
      · simpa [outline, hstate] using h.down
  | @dispatched frame consumed hlive hdecode hstate hbuffer hended htaken =>
    obtain ⟨behind, hdrop, hbytes⟩ := decoded_front
      (fun f hf => h.requests f (List.mem_of_mem_drop hf)) hdecode (h.up hlive)
    have hlength : server.taken.length - x.server.taken.length = 0 := by
      rw [htaken, Nat.sub_self]
    dsimp only
    rw [hlength, List.drop_zero]
    unfold Host.dispatch at hstate hended
    cases hserve : frame.serve config x.server.state.coordinator.engine x.server.state.session
        meets.begun meets.now meets.accepted with
    | none =>
      rw [hserve] at hstate hended
      dsimp only at hstate hended
      constructor
      · have houtline : Exchange.outline { x with server } = x.outline := by simp [outline, hstate]
        rw [houtline]
        exact .stay
      · refine ⟨h.requests, by simpa [hstate] using h.made, fun hlive' => ?_, ?_⟩
        · rw [hended] at hlive'
          cases hlive'
        · simpa [outline, hstate] using h.down
    | some served =>
      rw [hserve] at hstate
      dsimp only at hstate
      generalize hreported : Coordinator.respond { x.server.state.coordinator with
        engine := served.engine } meets.saving served.reply = reported at hstate
      generalize hresponse : (reported.2.frames config.limits served.engine meets.now frame).find?
        (fun frame => (writeResponse config.limits frame none).2) = response at hstate
      rw [writeFirst_whole hstops, hresponse] at hstate
      have hnext : x.outline.requested = x.outline.served.map Prod.fst ++ frame :: behind := by
        obtain ⟨rest, hrest⟩ := hinv.inOrder
        have hcount : (x.outline.served.map Prod.fst).length = x.server.state.log.length := by
          simp [outline]
        have htail : x.requested.drop x.server.state.log.length = rest := by
          rw [← hcount]
          change x.outline.requested.drop _ = rest
          rw [← hrest, List.drop_left]
        rw [← hrest, ← hdrop, htail]
      constructor
      · have hserves := StopAndWait.Step.serve frame response behind hnext
        simpa [outline, hstate, Entry.pair] using hserves
      · refine ⟨h.requests, ?_, fun _ => ?_, fun hconnected => ?_⟩
        · simp only [hstate]
          intro entry hentry
          rcases List.mem_append.1 hentry with hentry | hentry
          · exact h.made entry hentry
          · rw [List.mem_singleton.1 hentry]
            exact ⟨x.server.state.coordinator, x.server.state.session, meets, hserve, hreported.symm,
              hresponse.symm⟩
        · simp only [hstate, hbuffer, List.length_append, List.length_singleton]
          rw [hbytes, ← List.drop_drop, hdrop]
          rfl
        · have hwithin := hinv.within
          have hresponses : StopAndWait.responses
              (Exchange.outline { x with server }).served =
                StopAndWait.responses x.outline.served ++ response.toList := by
            rw [← StopAndWait.responses_append x.outline.served frame response]
            simp [outline, hstate, Entry.pair]
          have hdropped : (StopAndWait.responses x.outline.served ++ response.toList).drop x.read =
              (StopAndWait.responses x.outline.served).drop x.read ++ response.toList :=
            List.drop_append_of_le_length hwithin
          rw [hresponses, hdropped, List.flatMap_append, ← h.down hconnected]
          simp only [hstate, ← List.append_assoc]
          cases response <;> simp

/-- A move in which no write stops part-way is a step of the dialogue. -/
theorem step_outline (h : Carries client config x) (hinv : StopAndWait.Inv x.outline) {move : Move}
    (hwhole : move.whole) {progress : Client.Progress}
    (hstep : x.step client config move = some (x', progress)) :
    StopAndWait.Step x.outline x'.outline ∧ Carries client config x' := by
  have hidle (hcall : ¬ x.call.isSome = true) : x.call = none := by simpa using hcall
  cases move with
  | hello now stop =>
    cases hwhole
    unfold step at hstep
    dsimp only at hstep
    split at hstep
    · cases hstep
    · rename_i hcall
      obtain rfl : _ = x' := congrArg Prod.fst (Option.some.inj hstep)
      exact submit_outline h hinv (hidle hcall) ..
  | request id payload now stop =>
    cases hwhole
    unfold step at hstep
    dsimp only at hstep
    split at hstep
    · cases hstep
    · rename_i hcall
      obtain rfl : _ = x' := congrArg Prod.fst (Option.some.inj hstep)
      exact submit_outline h hinv (hidle hcall) ..
  | bye stop =>
    cases hwhole
    unfold step at hstep
    dsimp only at hstep
    split at hstep
    · cases hstep
    · rename_i hcall
      obtain rfl : _ = x' := congrArg Prod.fst (Option.some.inj hstep)
      exact leave_outline h hinv (hidle hcall)
  | close =>
    unfold step at hstep
    dsimp only at hstep
    split at hstep
    · cases hstep
    · rename_i hcall
      cases hstep
      refine ⟨?_, h.quiet rfl rfl rfl rfl fun h => by cases h⟩
      have hgiveUp := StopAndWait.Step.giveUp (s := x.outline)
      simpa [outline, hidle hcall, Client.close] using hgiveUp
  | poll now later received =>
    unfold step at hstep
    obtain ⟨call, hcall, hstep⟩ := Option.bind_eq_some_iff.1 hstep
    split at hstep
    · rename_i harrives
      obtain rfl : _ = x' := congrArg Prod.fst (Option.some.inj hstep)
      exact poll_outline h hinv hcall harrives
    · cases hstep
  | turn turn meets =>
    unfold step at hstep
    dsimp only at hstep
    split at hstep
    · rename_i harrives
      cases hstep
      exact turn_outline h hinv hwhole harrives
    · cases hstep
  | others coordinator =>
    cases hstep
    exact ⟨.stay, h.requests, h.made, h.up, h.down⟩

/-- Whatever a run does, the exchange is such a dialogue. -/
theorem run_outline
    (hrun : Run (step client config) (fun _ move => move.whole) x x')
    (h : Carries client config x) (hinv : StopAndWait.Inv x.outline) :
    StopAndWait.Inv x'.outline ∧ Carries client config x' := by
  refine hrun.inv (I := fun x => StopAndWait.Inv x.outline ∧ Carries client config x)
    (fun x move x' progress hwhole hx hstep => ?_) ⟨hinv, h⟩
  obtain ⟨hinv, hcarries⟩ := hx
  obtain ⟨houtline, hcarries'⟩ := step_outline hcarries hinv hwhole hstep
  exact ⟨hinv.step houtline, hcarries'⟩

end

/-- What came back is what was asked for. -/
structure Paired (x : Exchange) : Prop where
  /-- Requests are served in the order they were made, each at most once. -/
  inOrder : x.server.state.log.map (·.request) <+: x.requested
  /-- What was returned for a request is the response the session sent when it served that request. -/
  matched : (x.returned.map StopAndWait.answered).Sublist (x.server.state.log.map Entry.pair)
  numbered : ∀ pair ∈ x.returned, pair.2.header.sequence = pair.1.header.sequence
  /-- Between two calls nothing is under way that the next one could take for its response. -/
  settled : x.client.connected = true → x.call = none →
    x.server.state.log.map (·.request) = x.requested ∧
      x.client.buffer ++ x.server.state.downlink = []

theorem log_pairs (x : Exchange) :
    x.outline.served.map Prod.fst = x.server.state.log.map (·.request) := by
  simp only [outline, List.map_map]
  rfl

/-- What was returned was logged. -/
theorem returned_logged {x : Exchange} (hinv : StopAndWait.Inv x.outline)
    {pair : Wire.Frame × Wire.Frame} (hpair : pair ∈ x.returned) :
    ∃ entry ∈ x.server.state.log, entry.request = pair.1 ∧ entry.response = some pair.2 := by
  have hanswered : StopAndWait.answered pair ∈ x.server.state.log.map Entry.pair :=
    hinv.matched.mem (List.mem_map_of_mem hpair)
  obtain ⟨entry, hentry, heq⟩ := List.mem_map.1 hanswered
  exact ⟨entry, hentry, congrArg Prod.fst heq, congrArg Prod.snd heq⟩

/-- Whatever a client asks, however its bytes are cut and whoever else uses the coordinator, it pairs
every request with its response, unless a write stops part-way. -/
theorem responses_pair (client : ClientConfig) (config : EngineConfig) (c : Client)
    (coordinator : Coordinator) (session : Session) {x : Exchange}
    (hrun : Run (step client config) (fun _ move => move.whole) (start c coordinator session) x) :
    x.Paired := by
  obtain ⟨hinv, hcarries⟩ := run_outline hrun (start_carries c coordinator session)
    (start_inv c coordinator session)
  refine ⟨?_, hinv.matched, fun pair hpair => ?_, fun hconnected hidle => ?_⟩
  · rw [← log_pairs]
    exact hinv.inOrder
  · obtain ⟨entry, hentry, hrequest, hresponse⟩ := returned_logged hinv hpair
    rw [← hrequest]
    exact ((hcarries.made entry hentry).response hresponse).2.2
  · have hnone : x.outline.waiting = none := by simp [outline, hidle]
    obtain ⟨hall, hread⟩ := hinv.settled hconnected hnone
    rw [← log_pairs]
    refine ⟨hall.symm, ?_⟩
    rw [hcarries.down hconnected]
    change ((StopAndWait.responses x.outline.served).drop x.outline.read).flatMap _ = []
    rw [hread, List.drop_length]
    rfl

/-! ### A greeting -/

def Scenario.coordinator : Coordinator := { engine := Engine.start {} "n" }

def Scenario.accepted : Session :=
  { id := AdaptiveRouting.Scenario.session
    scope := { fabric := default, nameSpace := default } }

/-- The bytes of the first greeting of a client, and those of its acknowledgement. -/
def Scenario.greeting : Text := (Client.frame {} .hello ({} : Client).greeting.encode).bytes

def Scenario.acknowledgement : Text :=
  (responseFrame .first 1 .helloAck ({} : Client).greeting.encode).bytes

/-- The greeting arrives in two pieces, and is answered. -/
def Scenario.greets : List Exchange.Move :=
  [.hello 0 none,
   .turn { now := 1, received := .data (Scenario.greeting.take 20) }
    { begun := 1, now := 1, saving := { now := 1 } },
   .turn { now := 2, received := .data (Scenario.greeting.drop 20) }
    { begun := 2, now := 2, saving := { now := 2 } },
   .turn { now := 3 } { begun := 3, now := 3, saving := { now := 3 } },
   .poll 4 4 (.data Scenario.acknowledgement), .poll 5 5 .stalled]

theorem greeting_pairs : ∃ x, x.returned.length = 1 ∧
    Run (step {} {}) (fun _ move => move.whole)
      (start {} Scenario.coordinator Scenario.accepted) x ∧ Paired x := by
  obtain ⟨x, hx, hreturned⟩ := exists_run_of_runAll (show
    ((runAll (step {} {}) (start {} Scenario.coordinator Scenario.accepted) Scenario.greets).any
      fun x => x.returned.length == 1) = true by decide +kernel)
  have hrun := runAll_under Move.whole hx (by simp [Scenario.greets, Move.whole])
  exact ⟨x, by simpa using hreturned, hrun, responses_pair {} {} {} Scenario.coordinator
    Scenario.accepted hrun⟩

end Exchange

/-! ## What the client reads -/

section
variable {client : ClientConfig} {config : EngineConfig} {epoch : CoordinatorEpoch}
  {sequence : UInt64} {read message : ResultMessage} {frame : Wire.Frame}

end

namespace Exchange

def Scenario.registration : RegisterPublisherMessage where
  publisher := AdaptiveRouting.Scenario.publisher
  workerBoot := AdaptiveRouting.Scenario.boot
  scope := AdaptiveRouting.Scenario.scope

def Scenario.registrationBytes : Text :=
  (Client.frame {} .registerPublisher Scenario.registration.encode).bytes

/-- The request of a registration, up to its response. -/
def Scenario.asks : List Exchange.Move :=
  [.request .registerPublisher Scenario.registration.encode 0 none,
   .turn { now := 1, received := .data Scenario.registrationBytes }
    { begun := 1, now := 1, saving := { now := 1 } },
   .turn { now := 2 } { begun := 2, now := 2, saving := { now := 2 } }]

/-- The exchange when the response is on its way. -/
def Scenario.asked : Option Exchange :=
  runAll (step {} {}) (start {} Scenario.coordinator Scenario.accepted) Scenario.asks

/-- The client reads what is on its way. -/
def Scenario.registers : List Exchange.Move :=
  Scenario.asks ++
    [.poll 3 3 (.data ((Scenario.asked.map (·.server.state.downlink)).getD [])), .poll 4 4 .stalled]

end Exchange

end AdaptiveRouting
