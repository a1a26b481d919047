import AdaptiveRouting.Authority

/-!
# Upstream bindings

The identity, generation and currentness of the facts other runtimes own about a candidate path, and
the notifications that change them.
-/

namespace AdaptiveRouting

/-! ## Bindings -/

structure PathAuthorityBinding where
  path : PathId := default
  generation : PathAuthorityGeneration := {}
  legal : Bool := false
  denialReason : Text := []
  deriving DecidableEq, Repr

def PathAuthorityBinding.wellFormed (b : PathAuthorityBinding) : Bool :=
  b.path.valid && b.generation.valid

def PathAuthorityBinding.render (b : PathAuthorityBinding) : Text :=
  Text.concat ["path=", b.path.text, " generation=", natText b.generation.value.toNat,
    if b.legal then " legal" else " denied",
    if b.denialReason.isEmpty then [] else Text.concat ["(", b.denialReason, ")"]]

structure MultipathBinding where
  set : MultipathSetId
  generation : MultipathSetGeneration := {}
  members : List PathId := []
  current : Bool := false
  deriving DecidableEq, Repr

def MultipathBinding.contains (b : MultipathBinding) (path : PathId) : Bool :=
  b.members.contains path

def MultipathBinding.render (b : MultipathBinding) : Text :=
  Text.concat ["set=", b.set.text, " generation=", natText b.generation.value.toNat,
    if b.current then " current" else " stale", " members=",
    Text.join "," (b.members.map (·.text))]

structure RouteBinding where
  route : RouteId := default
  generation : RouteGeneration := {}
  site : StrongId .siteId := default
  current : Bool := false
  state : Text := []
  deriving DecidableEq, Repr

def RouteBinding.wellFormed (b : RouteBinding) : Bool := b.route.valid && b.generation.valid

def RouteBinding.render (b : RouteBinding) : Text :=
  Text.concat ["route=", b.route.text, " generation=", natText b.generation.value.toNat,
    if b.current then " current" else " stale",
    if b.site.valid then Text.concat [" site=", b.site.text] else [],
    if b.state.isEmpty then [] else Text.concat [" state=", b.state]]

structure WeightedPolicyBinding where
  set : StrongId .weightedPathSetId
  generation : WeightPolicyGeneration := {}
  current : Bool := false
  deriving DecidableEq, Repr

def WeightedPolicyBinding.render (b : WeightedPolicyBinding) : Text :=
  Text.concat ["set=", b.set.text, " generation=", natText b.generation.value.toNat,
    if b.current then " current" else " stale"]

/-- The complete upstream binding of one candidate path. -/
structure CandidateBinding where
  path : PathId
  pathAuthority : PathAuthorityBinding
  multipath : Option MultipathBinding := none
  route : RouteBinding
  weighted : Option WeightedPolicyBinding := none
  pathClass : PathClass := default
  available : Bool := true
  hardFailure : Bool := false
  deriving DecidableEq, Repr

def CandidateBinding.wellFormed (b : CandidateBinding) : Bool :=
  b.path.valid && b.pathAuthority.wellFormed && b.route.wellFormed

def CandidateBinding.render (b : CandidateBinding) : Text :=
  Text.concat ["path=", b.path.text, " authority[", b.pathAuthority.render, "] route[",
    b.route.render, "]",
    match b.multipath with
    | some multipath => Text.concat [" multipath[", multipath.render, "]"]
    | none => [],
    match b.weighted with
    | some weighted => Text.concat [" weighted[", weighted.render, "]"]
    | none => [],
    if b.pathClass.valid then Text.concat [" class=", b.pathClass.text] else [],
    if b.available then " available" else " unavailable",
    if b.hardFailure then " hard_failure" else []]

/-! ## Notifications -/

inductive UpstreamEvent
  | declareCandidate | advancePathAuthority | invalidatePath | setMembership
  | invalidateMultipathSet | advanceRoute | invalidateRoute | advanceWeightPolicy | markUnavailable
  | markAvailable | hardFailureSignal | clearHardFailureSignal
  deriving DecidableEq, Repr

def UpstreamEvent.code (event : UpstreamEvent) : UInt8 := event.ctorIdx.toUInt8 + 1

def UpstreamEvent.text : UpstreamEvent → Text
  | .declareCandidate => "DECLARE_CANDIDATE"
  | .advancePathAuthority => "ADVANCE_PATH_AUTHORITY"
  | .invalidatePath => "INVALIDATE_PATH"
  | .setMembership => "SET_MEMBERSHIP"
  | .invalidateMultipathSet => "INVALIDATE_MULTIPATH_SET"
  | .advanceRoute => "ADVANCE_ROUTE"
  | .invalidateRoute => "INVALIDATE_ROUTE"
  | .advanceWeightPolicy => "ADVANCE_WEIGHT_POLICY"
  | .markUnavailable => "MARK_UNAVAILABLE"
  | .markAvailable => "MARK_AVAILABLE"
  | .hardFailureSignal => "HARD_FAILURE_SIGNAL"
  | .clearHardFailureSignal => "CLEAR_HARD_FAILURE_SIGNAL"

def validUpstreamEvent (raw : UInt8) : Bool := 1 ≤ raw && raw ≤ 12

structure UpstreamNotification where
  event : UpstreamEvent := .declareCandidate
  policy : AdaptivePolicyId
  binding : CandidateBinding
  provenance : UpstreamProvenance := {}
  expectedPreviousGeneration : Option UInt64 := none
  deriving DecidableEq, Repr

def UpstreamNotification.render (n : UpstreamNotification) : Text :=
  Text.concat [n.event.text, " policy=", n.policy.text, " binding[", n.binding.render,
    "] provenance[", n.provenance.render, "]",
    match n.expectedPreviousGeneration with
    | some generation => Text.concat [" expected_previous=", natText generation.toNat]
    | none => []]

end AdaptiveRouting
