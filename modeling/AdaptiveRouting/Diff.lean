import AdaptiveRouting.Render

/-!
# Diffs

What changed between two snapshots. `compute_diff` compares one facet of the snapshots after the other
(`facets`), notes every facet that differs with its renderings, and sorts the notes by kind and field.
-/

namespace AdaptiveRouting

inductive DiffKind
  | policyChanged | policyLifecycleChanged | candidateEligibilityChanged | evidenceGenerationChanged
  | preferredPathChanged | adaptationSuppressed | holdDownEntered | holdDownExited | cooldownEntered
  | cooldownExited | authorityChanged | currentnessChanged | stableStateChanged | dampeningChanged
  | transitionChanged
  deriving DecidableEq, Repr

namespace DiffKind

def code (kind : DiffKind) : UInt8 := kind.ctorIdx.toUInt8 + 1

def text : DiffKind → Text
  | policyChanged => "POLICY_CHANGED"
  | policyLifecycleChanged => "POLICY_LIFECYCLE_CHANGED"
  | candidateEligibilityChanged => "CANDIDATE_ELIGIBILITY_CHANGED"
  | evidenceGenerationChanged => "EVIDENCE_GENERATION_CHANGED"
  | preferredPathChanged => "PREFERRED_PATH_CHANGED"
  | adaptationSuppressed => "ADAPTATION_SUPPRESSED"
  | holdDownEntered => "HOLD_DOWN_ENTERED"
  | holdDownExited => "HOLD_DOWN_EXITED"
  | cooldownEntered => "COOLDOWN_ENTERED"
  | cooldownExited => "COOLDOWN_EXITED"
  | authorityChanged => "AUTHORITY_CHANGED"
  | currentnessChanged => "CURRENTNESS_CHANGED"
  | stableStateChanged => "STABLE_STATE_CHANGED"
  | dampeningChanged => "DAMPENING_CHANGED"
  | transitionChanged => "TRANSITION_CHANGED"

end DiffKind

structure DiffEntry where
  kind : DiffKind
  field : Text
  before : Text
  after : Text
  deriving DecidableEq, Repr

structure AdaptationDiff where
  fromSnapshot : SnapshotId
  toSnapshot : SnapshotId
  policy : AdaptivePolicyId
  entries : List DiffEntry := []
  deriving DecidableEq, Repr

/-! ## Facets -/

/-- One comparison: the field it is noted under, its kind when the flag of the later snapshot is up and
when it is down, whether two snapshots differ in it, and how it reads. -/
structure Facet where
  field : Text
  raised : DiffKind
  lowered : DiffKind
  flag : AdaptationSnapshot → Bool
  differs : AdaptationSnapshot → AdaptationSnapshot → Bool
  text : AdaptationSnapshot → Text

namespace Facet

/-- A facet of one kind that compares a value. -/
def of {β : Type} [DecidableEq β] (kind : DiffKind) (field : Text) (value : AdaptationSnapshot → β)
    (text : AdaptationSnapshot → Text) : Facet where
  field := field
  raised := kind
  lowered := kind
  flag _ := true
  differs before after := value before != value after
  text := text

/-- A facet that compares how it reads. -/
def ofText (kind : DiffKind) (field : Text) (text : AdaptationSnapshot → Text) : Facet :=
  of kind field text text

/-- A timer that is entered and left. -/
def timer (entered exited : DiffKind) (field : Text) (active : AdaptationSnapshot → Bool) : Facet :=
  { of entered field active fun s => if active s then "active" else "clear" with
    lowered := exited, flag := active }

def kind (facet : Facet) (after : AdaptationSnapshot) : DiffKind :=
  if facet.flag after then facet.raised else facet.lowered

/-- The note of a facet that differs. -/
def entry (facet : Facet) (before after : AdaptationSnapshot) : Option DiffEntry :=
  if facet.differs before after then
    some { kind := facet.kind after, field := facet.field, before := facet.text before
           after := facet.text after }
  else none

end Facet

/-- Every candidate with its eligibility. -/
def renderCandidateSet (s : AdaptationSnapshot) : Text :=
  Text.concat (s.candidates.map fun candidate => Text.concat [candidate.binding.path.text,
    if candidate.eligible then ":eligible," else ":ineligible,"])

def preferredText (s : AdaptationSnapshot) : Text :=
  if s.preference.established then s.preference.preferredPath.text else "<none>"

/-- The outcome of the last record of the history. -/
def lastOutcome (s : AdaptationSnapshot) : Text :=
  (s.history.getLast?.map fun (record : AdaptationRecord) => record.outcome.text).getD "<none>"

/-- The comparisons, in the order they are made. -/
def facets : List Facet :=
  [.ofText .policyChanged "semantic_digest" (·.digest),
   .of .policyLifecycleChanged "lifecycle" (·.lifecycle) (·.lifecycle.text),
   .of .policyChanged "policy_generation" (·.policyGeneration) (·.policyGeneration.text),
   .of .authorityChanged "authority" (fun s => (s.authorityGeneration, s.epoch)) fun s =>
     Text.concat [s.authorityGeneration.text, "@", s.epoch.text],
   .ofText .candidateEligibilityChanged "candidates" renderCandidateSet,
   .of .evidenceGenerationChanged "evidence_generation" (·.evidenceGeneration)
     (·.evidenceGeneration.text),
   .ofText .preferredPathChanged "preferred_path" preferredText,
   .of .transitionChanged "adaptation_generation" (·.adaptationGeneration)
     (·.adaptationGeneration.text),
   .of .transitionChanged "transition_generation" (·.transitionGeneration)
     (·.transitionGeneration.text),
   .timer .holdDownEntered .holdDownExited "hold_down" (·.holdDownActive),
   .timer .cooldownEntered .cooldownExited "cooldown" (·.cooldownActive),
   .of .currentnessChanged "currentness" (·.currentness) (·.currentness.text),
   .of .stableStateChanged "stable" (fun s => (s.stable.established, s.stable.path))
     (·.stable.render),
   .of .dampeningChanged "dampening_penalty" (·.dampeningPenalty) fun s =>
     natText s.dampeningPenalty.toNat,
   .ofText .adaptationSuppressed "last_outcome" lastOutcome]

/-! ## The diff -/

/-- By kind, then by field. -/
def DiffEntry.precedes (a b : DiffEntry) : Bool :=
  if a.kind ≠ b.kind then a.kind.code < b.kind.code else decide (a.field < b.field)

def computeDiff (before after : AdaptationSnapshot) : AdaptationDiff where
  fromSnapshot := before.id
  toSnapshot := after.id
  policy := if after.policy.valid then after.policy else before.policy
  entries := (facets.filterMap fun facet => facet.entry before after).insertionSort fun a b =>
    !b.precedes a

def AdaptationDiff.render (diff : AdaptationDiff) : Text :=
  Text.concat ["diff ", diff.fromSnapshot.text, " -> ", diff.toSnapshot.text, " policy=",
    diff.policy.text,
    if diff.entries.isEmpty then "\n  <no semantic change>"
    else Text.concat (diff.entries.map fun entry => Text.concat ["\n  ", entry.kind.text, " ",
      entry.field, ": ", entry.before, " -> ", entry.after])]

end AdaptiveRouting
