import AdaptiveRouting.Outcome

/-!
# Lifecycles

What a policy and a decision are, the events that move them, and whether the facts they rest on are
still believed.
-/

namespace AdaptiveRouting

/-! ## Policies -/

inductive PolicyLifecycle
  | declared | active | suspended | revalidationRequired | revoked | superseded | retired
  deriving DecidableEq, Repr

inductive PolicyEvent
  | activate | suspend | resume | requireRevalidation | revalidate | revoke | supersede | retire
  deriving DecidableEq, Repr

def PolicyLifecycle.code (lifecycle : PolicyLifecycle) : UInt8 := lifecycle.ctorIdx.toUInt8 + 1

def PolicyLifecycle.text : PolicyLifecycle → Text
  | .declared => "DECLARED"
  | .active => "ACTIVE"
  | .suspended => "SUSPENDED"
  | .revalidationRequired => "REVALIDATION_REQUIRED"
  | .revoked => "REVOKED"
  | .superseded => "SUPERSEDED"
  | .retired => "RETIRED"

def PolicyEvent.code (event : PolicyEvent) : UInt8 := event.ctorIdx.toUInt8 + 1

def PolicyEvent.text : PolicyEvent → Text
  | .activate => "ACTIVATE"
  | .suspend => "SUSPEND"
  | .resume => "RESUME"
  | .requireRevalidation => "REQUIRE_REVALIDATION"
  | .revalidate => "REVALIDATE"
  | .revoke => "REVOKE"
  | .supersede => "SUPERSEDE"
  | .retire => "RETIRE"

def validPolicyEvent (raw : UInt8) : Bool := 1 ≤ raw && raw ≤ 8

/-- The transition table; `none` is an undefined pair. -/
def applyPolicyEvent : PolicyLifecycle → PolicyEvent → Option PolicyLifecycle
  | .declared, .activate => some .active
  | .declared, .requireRevalidation => some .revalidationRequired
  | .declared, .revoke => some .revoked
  | .declared, .supersede => some .superseded
  | .declared, .retire => some .retired
  | .active, .suspend => some .suspended
  | .active, .requireRevalidation => some .revalidationRequired
  | .active, .revoke => some .revoked
  | .active, .supersede => some .superseded
  | .active, .retire => some .retired
  | .suspended, .resume => some .active
  | .suspended, .requireRevalidation => some .revalidationRequired
  | .suspended, .revoke => some .revoked
  | .suspended, .supersede => some .superseded
  | .suspended, .retire => some .retired
  | .revalidationRequired, .revalidate => some .active
  | .revalidationRequired, .suspend => some .suspended
  | .revalidationRequired, .revoke => some .revoked
  | .revalidationRequired, .supersede => some .superseded
  | .revalidationRequired, .retire => some .retired
  | _, _ => none

/-- A lifecycle that admits no further event. -/
def PolicyLifecycle.terminal (lifecycle : PolicyLifecycle) : Bool :=
  lifecycle == .revoked || lifecycle == .superseded || lifecycle == .retired

/-- A terminal policy accepts no event. -/
theorem applyPolicyEvent_terminal {lifecycle : PolicyLifecycle} (h : lifecycle.terminal = true)
    (event : PolicyEvent) : applyPolicyEvent lifecycle event = none := by
  cases lifecycle <;> cases event <;> first | rfl | exact absurd h (by decide)

/-- The only events that lead into service, and where from. -/
theorem applyPolicyEvent_active {lifecycle : PolicyLifecycle} {event : PolicyEvent}
    (h : applyPolicyEvent lifecycle event = some .active) :
    lifecycle = .declared ∧ event = .activate ∨ lifecycle = .suspended ∧ event = .resume ∨
      lifecycle = .revalidationRequired ∧ event = .revalidate := by
  cases lifecycle <;> cases event <;> simp_all [applyPolicyEvent]

/-- The only event that revokes. -/
theorem applyPolicyEvent_revoked {lifecycle : PolicyLifecycle} {event : PolicyEvent}
    (h : applyPolicyEvent lifecycle event = some .revoked) : event = .revoke := by
  cases lifecycle <;> cases event <;> simp_all [applyPolicyEvent]

theorem applyPolicyEvent_revoke {lifecycle next : PolicyLifecycle}
    (h : applyPolicyEvent lifecycle .revoke = some next) : next = .revoked := by
  cases lifecycle <;> simp_all [applyPolicyEvent]

/-! ## Decisions -/

inductive DecisionLifecycle
  | proposed | eligible | suppressed | committed | superseded | rolledBack | revalidationRequired
  | expired | rejected
  deriving DecidableEq, Repr

def DecisionLifecycle.code (lifecycle : DecisionLifecycle) : UInt8 := lifecycle.ctorIdx.toUInt8 + 1

def DecisionLifecycle.text : DecisionLifecycle → Text
  | .proposed => "PROPOSED"
  | .eligible => "ELIGIBLE"
  | .suppressed => "SUPPRESSED"
  | .committed => "COMMITTED"
  | .superseded => "SUPERSEDED"
  | .rolledBack => "ROLLED_BACK"
  | .revalidationRequired => "REVALIDATION_REQUIRED"
  | .expired => "EXPIRED"
  | .rejected => "REJECTED"

/-! ## Currentness -/

inductive Currentness
  | current | staleEvidence | stalePathAuthority | staleMultipathSet | staleRoute | stalePolicy
  | staleEpoch | fencedPublisher | holdDownActive | cooldownActive | revalidationRequired
  deriving DecidableEq, Repr

def Currentness.code (currentness : Currentness) : UInt8 := currentness.ctorIdx.toUInt8 + 1

end AdaptiveRouting
