import Mathlib.Logic.Basic
import Mathlib.Tactic.Common

/-!
# Identities, generations and watermarks

Byte texts, the validated identities of `StrongId` (one type for each domain, ordered byte by byte
with the shorter one first), the non-wrapping `Generation` counters (zero is not a generation) and
the `Watermark` counters (zero is a watermark).
-/

namespace AdaptiveRouting

/-! ## Texts -/

/-- A byte string. -/
abbrev Text := List UInt8

instance : Coe String Text := ⟨fun s => s.toUTF8.data.toList⟩

def Text.concat (parts : List Text) : Text := parts.flatten

def Text.join (separator : Text) (parts : List Text) : Text := (parts.intersperse separator).flatten

/-- `sub` occurs in `text`. -/
def Text.find (text sub : Text) : Bool := text.tails.any sub.isPrefixOf

/-- `std::to_string` of an unsigned number. -/
def natText (n : Nat) : Text := (Nat.toDigits 10 n).map fun c => c.toNat.toUInt8

/-- `std::to_string` of a signed number. -/
def intText : Int → Text
  | .ofNat n => natText n
  | .negSucc n => Text.concat ["-", natText (n + 1)]

/-! ## StrongId -/

inductive IdDomain
  | adaptivePolicyId | adaptivePolicyName | adaptationDecisionId | transitionPlanId
  | evidenceSourceId | evidenceSnapshotId | fabricId | routingNamespace | siteId | pathClass
  | pathId | multipathSetId | weightedPathSetId | routeId | publisherId | workerBootId
  | mutationAttemptId | revalidationAttemptId | sessionId | requestId | snapshotId | evaluationId
  deriving DecidableEq, Repr

def IdDomain.maxLength : IdDomain → Nat
  | .adaptivePolicyId | .adaptationDecisionId | .transitionPlanId | .evidenceSourceId
  | .evidenceSnapshotId | .multipathSetId | .weightedPathSetId | .routeId | .snapshotId => 96
  | .pathId => 128
  | .pathClass => 32
  | .adaptivePolicyName | .fabricId | .routingNamespace | .siteId | .publisherId | .workerBootId
  | .mutationAttemptId | .revalidationAttemptId | .sessionId | .requestId | .evaluationId => 64

def idCharAllowed (c : UInt8) : Bool :=
  let upper := 0x41 ≤ c && c ≤ 0x5A
  let lower := 0x61 ≤ c && c ≤ 0x7A
  let digit := 0x30 ≤ c && c ≤ 0x39
  let punct := (".-:@#+/_" : Text).contains c
  upper || lower || digit || punct

def idEdgeCharAllowed (c : UInt8) : Bool := !(".-:@#+/_" : Text).contains c

/-- The encoding rules of an identity of at most `maxLength` bytes. -/
def idEncodingOk (maxLength : Nat) (text : Text) : Bool :=
  text.length ≤ maxLength && text.all idCharAllowed &&
    (match text.head?, text.getLast? with
     | some front, some back => idEdgeCharAllowed front && idEdgeCharAllowed back
     | _, _ => false)

/-- An identity: the empty (invalid) default, or a text that keeps the encoding rules. -/
structure StrongId (d : IdDomain) where
  text : Text
  ok : text = [] ∨ idEncodingOk d.maxLength text = true
  deriving DecidableEq, Repr

namespace StrongId

variable {d : IdDomain}

@[ext] theorem ext {a b : StrongId d} (h : a.text = b.text) : a = b := by
  cases a
  cases b
  cases h
  rfl

instance : Inhabited (StrongId d) := ⟨⟨[], .inl rfl⟩⟩

def parse (text : Text) : Option (StrongId d) :=
  if h : idEncodingOk d.maxLength text = true then some ⟨text, .inr h⟩ else none

def valid (a : StrongId d) : Bool := !a.text.isEmpty

instance : Ord (StrongId d) := ⟨fun a b => compare a.text b.text⟩

instance : LT (StrongId d) := ⟨fun a b => compare a b = .lt⟩

instance (a b : StrongId d) : Decidable (a < b) :=
  inferInstanceAs (Decidable (compare a b = .lt))

instance : Std.TransOrd (StrongId d) where
  eq_swap := fun {a b} =>
    show compare a.text b.text = (compare b.text a.text).swap from Std.OrientedCmp.eq_swap
  isLE_trans := fun {a b c} (hab : (compare a.text b.text).isLE)
      (hbc : (compare b.text c.text).isLE) =>
    show (compare a.text c.text).isLE from Std.TransCmp.isLE_trans hab hbc

instance : Std.LawfulEqOrd (StrongId d) where
  compare_self := fun {a} => show compare a.text a.text = .eq from Std.ReflCmp.compare_self
  eq_of_compare := fun {a b} (h : compare a.text b.text = .eq) =>
    ext (Std.LawfulEqCmp.eq_of_compare h)

end StrongId

abbrev AdaptivePolicyId := StrongId .adaptivePolicyId
abbrev AdaptivePolicyName := StrongId .adaptivePolicyName
abbrev AdaptationDecisionId := StrongId .adaptationDecisionId
abbrev TransitionPlanId := StrongId .transitionPlanId
abbrev EvidenceSourceId := StrongId .evidenceSourceId
abbrev EvidenceSnapshotId := StrongId .evidenceSnapshotId
abbrev FabricId := StrongId .fabricId
abbrev RoutingNamespace := StrongId .routingNamespace
abbrev PathClass := StrongId .pathClass
abbrev PathId := StrongId .pathId
abbrev MultipathSetId := StrongId .multipathSetId
abbrev RouteId := StrongId .routeId
abbrev PublisherId := StrongId .publisherId
abbrev WorkerBootId := StrongId .workerBootId
abbrev MutationAttemptId := StrongId .mutationAttemptId
abbrev SessionId := StrongId .sessionId
abbrev SnapshotId := StrongId .snapshotId
abbrev EvaluationId := StrongId .evaluationId

/-! ## Generations -/

inductive GenerationDomain
  | adaptivePolicy | adaptation | transition | evidence | evidenceSource | pathAuthority
  | multipathSet | weightPolicy | route | adaptiveAuthority | coordinatorEpoch
  deriving DecidableEq, Repr

/-- A non-wrapping counter; `0` is the invalid default. -/
structure Generation (d : GenerationDomain) where
  value : UInt64 := 0
  deriving DecidableEq, Repr, Inhabited

namespace Generation

variable {d : GenerationDomain}

def fromValue (value : UInt64) : Option (Generation d) :=
  if value = 0 then none else some ⟨value⟩

def first : Generation d := ⟨1⟩

def valid (g : Generation d) : Bool := g.value != 0

/-- The next generation, unless the counter is exhausted. -/
def next (g : Generation d) : Option (Generation d) :=
  if g.value = 0xFFFFFFFFFFFFFFFF then none else fromValue (g.value + 1)

instance : LT (Generation d) := ⟨fun a b => a.value < b.value⟩

instance : LE (Generation d) := ⟨fun a b => a.value ≤ b.value⟩

instance (a b : Generation d) : Decidable (a < b) := inferInstanceAs (Decidable (a.value < b.value))

instance (a b : Generation d) : Decidable (a ≤ b) := inferInstanceAs (Decidable (a.value ≤ b.value))

@[ext] theorem ext {a b : Generation d} (h : a.value = b.value) : a = b := by
  cases a
  cases b
  cases h
  rfl

theorem lt_iff_toNat {a b : Generation d} : a < b ↔ a.value.toNat < b.value.toNat :=
  UInt64.lt_iff_toNat_lt

theorem le_iff_toNat {a b : Generation d} : a ≤ b ↔ a.value.toNat ≤ b.value.toNat :=
  UInt64.le_iff_toNat_le

theorem eq_iff_toNat {a b : Generation d} : a = b ↔ a.value.toNat = b.value.toNat :=
  ⟨fun h => h ▸ rfl, fun h => ext (UInt64.toNat_inj.1 h)⟩

/-- `next` adds one and never wraps. -/
theorem next_toNat {a b : Generation d} (h : a.next = some b) :
    b.value.toNat = a.value.toNat + 1 := by
  unfold next fromValue at h
  split at h
  · cases h
  · rename_i hmax
    split at h
    · cases h
    · cases h
      have hlt := a.value.toNat_lt
      have hne : a.value.toNat ≠ 0xFFFFFFFFFFFFFFFF := fun hc => hmax (UInt64.toNat_inj.1 hc)
      simp only [UInt64.toNat_add, UInt64.toNat_one]
      omega

theorem lt_next {a b : Generation d} (h : a.next = some b) : a < b := by
  have := next_toNat h
  show a.value < b.value
  rw [UInt64.lt_iff_toNat_lt]
  omega

end Generation

abbrev AdaptivePolicyGeneration := Generation .adaptivePolicy
abbrev AdaptationGeneration := Generation .adaptation
abbrev TransitionGeneration := Generation .transition
abbrev EvidenceGeneration := Generation .evidence
abbrev EvidenceSourceGeneration := Generation .evidenceSource
abbrev PathAuthorityGeneration := Generation .pathAuthority
abbrev MultipathSetGeneration := Generation .multipathSet
abbrev WeightPolicyGeneration := Generation .weightPolicy
abbrev RouteGeneration := Generation .route
abbrev AdaptiveAuthorityGeneration := Generation .adaptiveAuthority
abbrev CoordinatorEpoch := Generation .coordinatorEpoch

/-! ## Watermarks -/

/-- A monotonic invalidation counter; `0` is the state of what was never invalidated. -/
structure Watermark where
  value : UInt64 := 0
  deriving DecidableEq, Repr, Inhabited

namespace Watermark

def next (w : Watermark) : Option Watermark :=
  if w.value = 0xFFFFFFFFFFFFFFFF then none else some ⟨w.value + 1⟩

instance : LT Watermark := ⟨fun a b => a.value < b.value⟩

instance : LE Watermark := ⟨fun a b => a.value ≤ b.value⟩

instance (a b : Watermark) : Decidable (a < b) := inferInstanceAs (Decidable (a.value < b.value))

instance (a b : Watermark) : Decidable (a ≤ b) := inferInstanceAs (Decidable (a.value ≤ b.value))

theorem next_toNat {a b : Watermark} (h : a.next = some b) :
    b.value.toNat = a.value.toNat + 1 := by
  unfold next at h
  split at h
  · cases h
  · rename_i hmax
    cases h
    have hlt := a.value.toNat_lt
    have hne : a.value.toNat ≠ 0xFFFFFFFFFFFFFFFF := fun hc => hmax (UInt64.toNat_inj.1 hc)
    simp only [UInt64.toNat_add, UInt64.toNat_one]
    omega

theorem lt_next {a b : Watermark} (h : a.next = some b) : a < b := by
  have := next_toNat h
  show a.value < b.value
  rw [UInt64.lt_iff_toNat_lt]
  omega

end Watermark

/-! ## Identity generation -/

/-- The kinds of identity a factory mints; an engine mints no sources, boots and sessions. -/
inductive IdKind
  | policy | decision | transition | evidence | evsnap | snapshot | boot | session | eval
  deriving DecidableEq, Repr

def IdKind.text : IdKind → Text
  | .policy => "policy"
  | .decision => "decision"
  | .transition => "transition"
  | .evidence => "evidence"
  | .evsnap => "evsnap"
  | .snapshot => "snapshot"
  | .boot => "boot"
  | .session => "session"
  | .eval => "eval"

def IdKind.domain : IdKind → IdDomain
  | .policy => .adaptivePolicyId
  | .decision => .adaptationDecisionId
  | .transition => .transitionPlanId
  | .evidence => .evidenceSourceId
  | .evsnap => .evidenceSnapshotId
  | .snapshot => .snapshotId
  | .boot => .workerBootId
  | .session => .sessionId
  | .eval => .evaluationId

/-- The nonce of a process: its number, the clock when it is first asked for, and a counter. -/
def processNonce (pid stamp counter : UInt64) : Text :=
  Text.concat [natText pid.toNat, "-", natText stamp.toNat, "-", natText counter.toNat]

/-- `IdFactory`: what its identities are composed from, and its counter. -/
structure IdFactory where
  idPrefix : Text
  nonce : Text
  counter : UInt64 := 0
  deriving DecidableEq, Repr

namespace IdFactory

def compose (f : IdFactory) (kind : IdKind) (counter : UInt64) : Text :=
  Text.concat [f.idPrefix, if f.idPrefix.isEmpty then [] else "-", kind.text, "-", f.nonce, "-",
    natText counter.toNat]

/-- The next identity of a kind. `none` when the composed text is not an identity: `require` throws
inside a `noexcept` function, which ends the process. -/
def mint (f : IdFactory) (kind : IdKind) : Option (StrongId kind.domain × IdFactory) :=
  (StrongId.parse (f.compose kind (f.counter + 1))).map fun id =>
    (id, { f with counter := f.counter + 1 })

end IdFactory

end AdaptiveRouting
