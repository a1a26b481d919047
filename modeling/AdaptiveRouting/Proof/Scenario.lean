import AdaptiveRouting.Proof.Effect

/-!
# A deployment

One publisher, one policy with two candidate paths. The runs that show where a property ends are
lists of operations of this deployment, and every state such a list reaches is reachable
(`reachable_of_runAll`).
-/

namespace AdaptiveRouting

theorem Engine.reachable_of_runAll {config : EngineConfig} {nonce : Text} {ops : List Op} {e : Engine}
    (h : Runs.runAll (Engine.step config) (Engine.start config nonce) ops = some e) :
    Engine.Reachable config e :=
  ⟨nonce, Runs.runAll_run h⟩

namespace Scenario

/-- The identity with this text. -/
def name {d : IdDomain} (text : Text) : StrongId d := (StrongId.parse text).getD default

def config : EngineConfig := {}

def engine : Engine := Engine.start config "n"

def publisher : PublisherId := name "publisher"

def boot : WorkerBootId := name "boot"

def session : SessionId := name "session"

def route : RouteId := name "route"

def scope : AuthorityScope := { fabric := name "fabric", nameSpace := name "space" }

def context (epoch : UInt64) (attempt : String) : MutationContext :=
  { epoch := ⟨epoch⟩, publisher, workerBoot := boot, session, attempt := name attempt }

/-- The incarnation that registers after `boot` was fenced. -/
def nextBoot : WorkerBootId := name "next-boot"

def nextContext (epoch : UInt64) (attempt : String) : MutationContext :=
  { context epoch attempt with workerBoot := nextBoot }

/-- The identity the first minted policy gets. -/
def policy : AdaptivePolicyId := name "arf-policy-n-1"

def semantics : PolicySemantics where
  target := { route }
  improvements := [{ switchImprovementBps := 1000 }]
  evidence := [{ ewmaAlphaBps := 0, maxAge := 1000 }]
  objective := { terms := [{ kind := .pathLatency, weightBps := 0 }] }

def create (epoch : UInt64) : CreatePolicyRequest where
  name := name "policy"
  scope := { fabric := name "fabric", nameSpace := name "space" }
  semantics := semantics
  context := context epoch "create"

def register : Op := .registerPublisher publisher boot scope session

def registerNext : Op := .registerPublisher publisher nextBoot scope session

def activate : Op := .transitionPolicy { policy, event := .activate, context := context 1 "activate" }

/-! ## Candidates and evidence -/

def left : PathId := name "left"

def right : PathId := name "right"

/-- The binding a candidate of the deployment is declared with. -/
def binding (path : PathId) : CandidateBinding where
  path := path
  pathAuthority := { path, generation := ⟨1⟩, legal := true }
  route := { route, generation := ⟨1⟩, current := true }

def declare (path : PathId) : UpstreamNotification := { policy, binding := binding path }

def notify (n : UpstreamNotification) (attempt : String) : Op :=
  .applyUpstream { notifications := [n], context := context 1 attempt }

def latency (value : Int) : MetricValue := (MetricValue.make .pathLatency value).getD default

/-- One latency sample of a path. -/
def publish (path : PathId) (value : Int) (attempt : String) : Op :=
  .publishEvidence (fun _ => 1) {
    publications := [{ source := name "source", sourceGeneration := ⟨1⟩, path, value := latency value
                       observationSequence := 1 }]
    context := context 1 attempt }

def evaluation (attempt : String) : EvaluateRequest := { policy, context := context 1 attempt }

def created : List Op := [register, .createPolicy 0 (create 1)]

/-- The policy prefers the left path. -/
def settled : List Op :=
  [register, .createPolicy 0 (create 1), activate, notify (declare left) "left",
    publish left 100 "left-evidence", .evaluate 2 2 (evaluation "establish")]

/-- Then the right path is the better one. -/
def challenged : List Op := settled ++ [notify (declare right) "right", publish right 50 "right-evidence"]

/-! ## Runs of the deployment -/

/-- The engine after a list of operations. -/
def after (ops : List Op) : Engine := (Runs.runAll (Engine.step config) engine ops).getD engine

/-- Every operation of the list returns. -/
def returns (ops : List Op) : Bool := (Runs.runAll (Engine.step config) engine ops).isSome

theorem runAll_after {ops : List Op} (h : returns ops = true) :
    Runs.runAll (Engine.step config) engine ops = some (after ops) := by
  obtain ⟨e, he⟩ := Option.isSome_iff_exists.1 h
  rw [after, he]
  rfl

theorem reachable_after {ops : List Op} (h : returns ops = true) :
    Engine.Reachable config (after ops) :=
  Engine.reachable_of_runAll (runAll_after h)

theorem returns_front {ops more : List Op} (h : returns (ops ++ more) = true) :
    returns ops = true := by
  unfold returns at h ⊢
  rw [Runs.runAll_append] at h
  cases hops : Runs.runAll (Engine.step config) engine ops with
  | none =>
    rw [hops] at h
    cases h
  | some e => rfl

/-- The last operation of a list is a step from where the others lead. -/
theorem step_after (ops : List Op) (op : Op) (h : returns (ops ++ [op]) = true) :
    ∃ answer, (after ops).step config op = some (after (ops ++ [op]), answer) := by
  have hops := runAll_after (returns_front h)
  have hall := runAll_after h
  rw [Runs.runAll_append, hops, Option.bind_some] at hall
  obtain ⟨⟨e, answer⟩, hstep, he⟩ := Option.bind_eq_some_iff.1 hall
  cases he
  exact ⟨answer, hstep⟩

theorem run_after (ops more : List Op) (h : returns (ops ++ more) = true) :
    Engine.Run config (after ops) (after (ops ++ more)) := by
  have hops := runAll_after (returns_front h)
  have hall := runAll_after h
  rw [Runs.runAll_append, hops, Option.bind_some] at hall
  exact Runs.runAll_run hall

/-- The operations of a list recover no store. -/
def recoverless (ops : List Op) : Bool := ops.all fun op => (op.recovers config.limits).isNone

/-- A run on from a list of operations, by operations that recover no store. -/
theorem recoverless_after (ops more : List Op) (h : returns (ops ++ more) = true)
    (hmore : recoverless more = true) :
    Engine.RunUnder config (fun _ op => op.recovers config.limits = none) (after ops)
      (after (ops ++ more)) := by
  have hops := runAll_after (returns_front h)
  have hall := runAll_after h
  rw [Runs.runAll_append, hops, Option.bind_some] at hall
  exact Runs.runAll_under (fun op => op.recovers config.limits = none) hall fun op hmem =>
    Option.isNone_iff_eq_none.1 (List.all_eq_true.1 hmore op hmem)

/-- The lifecycle of the policy after a list of operations. -/
def lifecycleAfter (ops : List Op) : Option PolicyLifecycle :=
  ((after ops).state.policies[policy]?).map (·.policy.lifecycle)

/-- The ticket an operation returns after a list. -/
def ticketAfter (ops : List Op) (op : Op) : EvaluationTicket :=
  match (after ops).step config op with
  | some (_, .ticket ticket) => ticket
  | _ => {}

/-- An operation after a list returns, with an answer that passes a test. -/
def answers (ops : List Op) (op : Op) (test : Answer → Bool) : Bool :=
  ((after ops).step config op).any fun entry => test entry.2

theorem step_answers {ops : List Op} {op : Op} {test : Answer → Bool}
    (h : answers ops op test = true) :
    ∃ e answer, (after ops).step config op = some (e, answer) ∧ test answer = true := by
  obtain ⟨⟨e, answer⟩, hstep, htest⟩ := (Option.any_eq_true _ _).1 h
  exact ⟨e, answer, hstep, htest⟩

/-- An operation that returns a result with an outcome. -/
theorem step_result {ops : List Op} {op : Op} {outcome : Outcome} (h : returns (ops ++ [op]) = true)
    (hresult : answers ops op (fun answer => answer.outcome == some outcome) = true) :
    ∃ result, (after ops).step config op = some (after (ops ++ [op]), .result result) ∧
      result.outcome = outcome := by
  obtain ⟨answer, hstep⟩ := step_after ops op h
  unfold answers at hresult
  rw [hstep] at hresult
  cases answer with
  | result result => exact ⟨result, hstep, by simpa [Answer.outcome] using hresult⟩
  | _ => cases hresult

/-- Phase one returns its ticket. -/
theorem step_ticket {ops : List Op} {op : Op} (h : returns (ops ++ [op]) = true)
    (hticket : answers ops op (fun answer => answer matches .ticket _) = true) :
    (after ops).step config op = some (after (ops ++ [op]), .ticket (ticketAfter ops op)) := by
  obtain ⟨answer, hstep⟩ := step_after ops op h
  unfold answers at hticket
  unfold ticketAfter
  rw [hstep] at hticket ⊢
  cases answer with
  | ticket ticket => rfl
  | _ => cases hticket

end Scenario

end AdaptiveRouting
