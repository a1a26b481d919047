import AdaptiveRouting.Proof.Refusals
import AdaptiveRouting.Proof.Scenario

/-!
# Authoring

Creating and updating a policy compares one route with the caller's authority scope, the target, and
the fabric and namespace of the policy scope with it. So everything an authored scope admits is
inside the authority scope exactly when its lists are (`Within`): an empty list of the policy scope
admits every identity, and a restricted authority does not.
-/

namespace AdaptiveRouting

open Guard Engine

/-! ## Scopes inside scopes -/

section
variable {α : Type}

/-- What a list of a policy scope admits: everything, when it is empty. -/
def Admits (listed : List α) (a : α) : Prop := listed = [] ∨ a ∈ listed

/-- A list of an authority scope that is no restriction, or names all of a list that is one, or names
every identity there is. -/
def Within (allowed listed : List α) : Prop :=
  allowed = [] ∨ (listed ≠ [] ∧ ∀ a ∈ listed, a ∈ allowed) ∨ ∀ a, a ∈ allowed

theorem within_iff {allowed listed : List α} :
    Within allowed listed ↔ ∀ a, Admits listed a → Admits allowed a := by
  constructor
  · rintro (h | ⟨hlisted, hsub⟩ | hall) a ha
    · exact .inl h
    · exact .inr (hsub a (ha.resolve_left hlisted))
    · exact .inr (hall a)
  · intro h
    by_cases hallowed : allowed = []
    · exact .inl hallowed
    · have hmem : ∀ a, Admits listed a → a ∈ allowed := fun a ha => (h a ha).resolve_left hallowed
      by_cases hlisted : listed = []
      · exact .inr (.inr fun a => hmem a (.inl hlisted))
      · exact .inr (.inl ⟨hlisted, fun a ha => hmem a (.inr ha)⟩)

end

namespace AuthorityScope

variable {authority : AuthorityScope} {fabric : FabricId} {nameSpace : RoutingNamespace}

theorem coversRoute_iff {route : RouteId} : authority.coversRoute fabric nameSpace route = true ↔
    authority.coversNamespace fabric nameSpace = true ∧ Admits authority.routes route := by
  simp [coversRoute, Admits]

theorem coversMultipathSet_iff {set : MultipathSetId} :
    authority.coversMultipathSet fabric nameSpace set = true ↔
      authority.coversNamespace fabric nameSpace = true ∧ Admits authority.multipathSets set := by
  simp [coversMultipathSet, Admits]

/-- Everything the policy scope admits is inside the authority scope. -/
structure Contains (authority : AuthorityScope) (scope : PolicyScope) : Prop where
  nameSpace : authority.coversNamespace scope.fabric scope.nameSpace = true
  routes : ∀ route, Admits scope.routes route →
    authority.coversRoute scope.fabric scope.nameSpace route = true
  sets : ∀ set, Admits scope.multipathSets set →
    authority.coversMultipathSet scope.fabric scope.nameSpace set = true

theorem contains_iff {scope : PolicyScope} : authority.Contains scope ↔
    authority.coversNamespace scope.fabric scope.nameSpace = true ∧
      Within authority.routes scope.routes ∧ Within authority.multipathSets scope.multipathSets := by
  rw [within_iff, within_iff]
  constructor
  · rintro ⟨hname, hroutes, hsets⟩
    exact ⟨hname, fun r hr => (coversRoute_iff.1 (hroutes r hr)).2,
      fun m hm => (coversMultipathSet_iff.1 (hsets m hm)).2⟩
  · rintro ⟨hname, hroutes, hsets⟩
    exact ⟨hname, fun r hr => coversRoute_iff.2 ⟨hname, hroutes r hr⟩,
      fun m hm => coversMultipathSet_iff.2 ⟨hname, hsets m hm⟩⟩

end AuthorityScope

/-! ## Accepted requests -/

/-- The context of a request that authors a policy, and the scope it asks for. -/
def Op.authors : Op → Option (MutationContext × PolicyScope)
  | .createPolicy _ request => some (request.context, request.scope)
  | .updatePolicy _ request => some (request.context, request.update.scope)
  | _ => none

/-- The answer is a success. -/
def Answer.accepted (answer : Answer) : Bool := answer.outcome.any (·.isSuccess)

section
variable {limits : Limits} {e e' : Engine} {now : Ticks} {result : OperationResult}

theorem not_isRejection {outcome : Outcome} (h : outcome.isSuccess = true) :
    ¬ outcome.isRejection = true := by
  simp [Outcome.isRejection, h]

theorem createPolicy_accepted {request : CreatePolicyRequest}
    (h : createPolicy limits e now request = some (e', result))
    (hs : result.outcome.isSuccess = true) : State.Passing (e.state.createChecks limits request) := by
  unfold createPolicy at h
  dsimp only at h
  split at h
  · rename_i answer hchecks
    cases h
    exact .of_error hchecks (not_isRejection hs)
  · rename_i fingerprint hchecks
    exact .of_ok hchecks

theorem updatePolicy_accepted {s : State} {request : UpdatePolicyRequest}
    (hs : (s.updatePolicy limits now request).2.outcome.isSuccess = true) :
    State.Passing (s.updateChecks limits request) := by
  unfold State.updatePolicy at hs
  split at hs
  · rename_i answer hchecks
    exact .of_error hchecks (not_isRejection hs)
  · rename_i hchecks
    exact .of_ok hchecks

end

/-- An accepted authoring request stays inside the fabric and namespace of its caller's registered
scope, and everything it admits is inside that scope exactly when its lists are. -/
theorem authoring_contained_iff {config : EngineConfig} {e e' : Engine} {op : Op} {answer : Answer}
    {context : MutationContext} {scope : PolicyScope} (hop : op.authors = some (context, scope))
    (h : e.step config op = some (e', answer)) (haccepted : answer.accepted = true) :
    ∃ registration, e.state.registrations[context.publisher]? = some registration ∧
      (registration.scope.Contains scope ↔ Within registration.scope.routes scope.routes ∧
        Within registration.scope.multipathSets scope.multipathSets) := by
  have hcovers : ∃ registration route, e.state.registrations[context.publisher]? = some registration ∧
      registration.scope.coversRoute scope.fabric scope.nameSpace route = true := by
    cases op with
    | createPolicy now request =>
      cases hop
      obtain ⟨⟨e₁, result⟩, hcreate, he⟩ := Option.map_eq_some_iff.1 h
      cases he
      obtain ⟨registration, hcaller, hscope⟩ :=
        State.createChecks_passed (createPolicy_accepted hcreate haccepted)
      exact ⟨registration, _, hcaller.registered, hscope⟩
    | updatePolicy now request =>
      cases hop
      cases h
      obtain ⟨registration, hcaller, hscope⟩ :=
        State.updateChecks_passed (updatePolicy_accepted haccepted)
      exact ⟨registration, _, hcaller.registered, hscope⟩
    | _ => cases hop
  obtain ⟨registration, route, hregistered, hroute⟩ := hcovers
  have hname := (AuthorityScope.coversRoute_iff.1 hroute).1
  refine ⟨registration, hregistered, ?_⟩
  rw [AuthorityScope.contains_iff]
  exact and_iff_right hname

namespace Scenario

def listedSet : MultipathSetId := name "listedSet"

/-- A registration that is restricted to two routes and a set. -/
def registerConfined : Op :=
  .registerPublisher publisher boot
    { scope with routes := [route, name "second"], multipathSets := [listedSet] } session

/-- A policy for one of the routes and the set. -/
def createConfined : CreatePolicyRequest where
  __ := create 1
  scope := { (create 1).scope with routes := [route], multipathSets := [listedSet] }

end Scenario

open Scenario in
/-- A restricted publisher authors a policy inside its scope. -/
theorem confined_authoring_contained : ∃ registration,
    (after [registerConfined]).state.registrations[publisher]? = some registration ∧
      registration.scope.routes = [route, name "second"] ∧
      registration.scope.multipathSets = [listedSet] ∧
      (registration.scope.Contains createConfined.scope ↔
        Within registration.scope.routes createConfined.scope.routes ∧
          Within registration.scope.multipathSets createConfined.scope.multipathSets) ∧
      registration.scope.Contains createConfined.scope := by
  obtain ⟨e, answer, hstep, haccepted⟩ := step_answers (by decide +kernel :
    answers [registerConfined] (.createPolicy 0 createConfined) Answer.accepted = true)
  obtain ⟨registration, hregistered, hcontains⟩ := authoring_contained_iff rfl hstep haccepted
  have hlisted : ((after [registerConfined]).state.registrations[publisher]?).any
      (fun registration => registration.scope.routes == [route, name "second"] &&
        registration.scope.multipathSets == [listedSet]) = true := by decide +kernel
  have hregistered' : (after [registerConfined]).state.registrations[publisher]? =
      some registration := hregistered
  rw [hregistered', Option.any_some, Bool.and_eq_true, beq_iff_eq, beq_iff_eq] at hlisted
  refine ⟨registration, hregistered, hlisted.1, hlisted.2, hcontains, hcontains.2 ⟨?_, ?_⟩⟩
  · rw [hlisted.1]
    exact .inr (.inl ⟨by decide, by decide +kernel⟩)
  · rw [hlisted.2]
    exact .inr (.inl ⟨by decide, by decide +kernel⟩)

namespace Scenario

/-- A registration that is restricted to one route. -/
def registerListed : Op := .registerPublisher publisher boot { scope with routes := [route] } session

end Scenario

open Scenario in
/-- A publisher restricted to one route authors a policy whose scope admits every route. -/
theorem restricted_authoring_escapes :
    Engine.Reachable config (after [registerListed]) ∧
      (∃ e answer, (after [registerListed]).step config (.createPolicy 0 (create 1)) =
        some (e, answer) ∧ answer.outcome = some .policyCreated) ∧
      ∃ registration, (after [registerListed]).state.registrations[publisher]? = some registration ∧
        ¬ registration.scope.Contains (create 1).scope := by
  refine ⟨reachable_after (by decide +kernel), ?_, ?_⟩
  · obtain ⟨e, answer, hstep, hcreated⟩ := step_answers
      (by decide +kernel : answers [registerListed] (.createPolicy 0 (create 1))
        (fun answer => answer.outcome == some .policyCreated) = true)
    exact ⟨e, answer, hstep, by simpa using hcreated⟩
  · have hlisted : ((after [registerListed]).state.registrations[publisher]?).any (fun registration =>
        registration.scope.routes == [route]) = true := by decide +kernel
    obtain ⟨registration, hregistered, hroutes⟩ := (Option.any_eq_true _ _).1 hlisted
    refine ⟨registration, hregistered, fun hcontains => ?_⟩
    have helsewhere := hcontains.routes (name "elsewhere") (.inl rfl)
    rw [AuthorityScope.coversRoute_iff, eq_of_beq hroutes] at helsewhere
    rcases helsewhere.2 with h | h
    · cases h
    · exact absurd h (by decide +kernel)

end AdaptiveRouting
