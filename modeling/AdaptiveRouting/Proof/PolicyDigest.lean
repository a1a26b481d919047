import AdaptiveRouting.Lib.Ranking
import AdaptiveRouting.Proof.Format
import AdaptiveRouting.Proof.Payload

/-!
# What a policy digest covers

The digest of a policy is computed from its bytes in the store, with the rules, the priorities and
the lists of the scope in key order and without what is no part of the semantics
(`AdaptivePolicy.digestBytes`, `policySemanticDigest_eq`). Two valid policies have the same bytes
exactly when they are alike (`digestBytes_eq_iff`).
-/

namespace AdaptiveRouting

open Codecs Guard

/-! ## The bytes of a digest -/

/-- The writer feeds these bytes to the digest, whatever was fed before. -/
def Digest.Feeds {α : Type} (write : Digest → α → Digest) (put : α → Text) : Prop :=
  ∀ g a, write g a = g.writeBytes (put a)

namespace Digest

theorem putU64_eq (value : UInt64) : putU64 value = wordBytes value := rfl

theorem feeds_u8 : Feeds writeU8 putU8 := by
  intro g value
  rw [writeU8_eq]
  congr 1
  simp [putU8, littleEndian]

theorem feeds_u64 : Feeds writeU64 putU64 := fun _ _ => rfl

theorem feeds_u32 : Feeds writeU32 putU32 := fun _ _ => rfl

theorem feeds_bool : Feeds writeBool putBool := fun g _ => feeds_u8 g _

theorem feeds_string : Feeds writeString putString := by
  intro g text
  rw [writeString_eq]
  unfold putString putBytes stringBytes
  rw [putU64_eq]

theorem feeds_id {d : IdDomain} : Feeds (writeId (d := d)) putId := fun g id => feeds_string g id.text

theorem feeds_generation {d : GenerationDomain} : Feeds (writeGeneration (d := d)) putGeneration :=
  fun g generation => feeds_u64 g generation.value

section
variable {α : Type} {write : Digest → α → Digest} {put : α → Text}

theorem feeds_option (h : Feeds write put) : Feeds (writeOption write) (putOption put) := by
  intro g value
  cases value with
  | none => exact feeds_bool g false
  | some a =>
    unfold writeOption putOption
    dsimp only
    rw [h, feeds_bool, writeBytes_append]

theorem feeds_list (h : Feeds write put) : Feeds (writeList write) (putList put) := by
  intro g values
  have hwrite : write = fun g a => g.writeBytes (put a) := funext fun g => funext fun a => h g a
  unfold writeList putList
  rw [feeds_u64, hwrite, foldl_writeBytes, writeBytes_append]

end

theorem feeds_metric : Feeds writeMetric putMetric := by
  intro g value
  unfold writeMetric putMetric
  split
  · rename_i hvalid
    rw [hvalid, feeds_u8, feeds_u8, feeds_u8, feeds_u32, writeI64, feeds_u64]
    simp only [writeBytes_append, List.append_assoc]
    rfl
  · rename_i hvalid
    rw [Bool.eq_false_iff.2 hvalid]
    exact feeds_u8 g 0

/-! ## Rules -/

theorem feeds_threshold : Feeds writeThreshold putThreshold := by
  intro g rule
  unfold writeThreshold putThreshold
  rw [feeds_u8, feeds_metric, feeds_metric]
  simp only [writeBytes_append]

theorem feeds_improvement : Feeds writeImprovement putImprovement := by
  intro g rule
  unfold writeImprovement putImprovement
  rw [feeds_u8, feeds_u32, feeds_u32]
  simp only [writeBytes_append]

theorem feeds_requirement : Feeds writeRequirement putRequirement := by
  intro g r
  unfold writeRequirement putRequirement
  rw [feeds_u8, feeds_u8, feeds_u32, feeds_u32, feeds_u64, feeds_u64, feeds_u8, feeds_bool]
  simp only [writeBytes_append]

theorem feeds_dampening : Feeds writeDampening putDampening := by
  intro g r
  unfold writeDampening putDampening
  rw [feeds_bool, feeds_u32, feeds_u32, feeds_u64, feeds_u32, feeds_u64, feeds_u64]
  simp only [writeBytes_append]

theorem feeds_term : Feeds writeTerm putTerm := by
  intro g term
  unfold writeTerm putTerm
  rw [feeds_u8, feeds_u32, writeBytes_append]

theorem feeds_emergency : Feeds writeEmergency putEmergency := by
  intro g r
  unfold writeEmergency putEmergency
  rw [feeds_bool, feeds_bool, feeds_bool, feeds_bool]
  simp only [writeBytes_append]

theorem feeds_priority : Feeds writePriority putPriority := by
  intro g entry
  unfold writePriority putPriority
  rw [feeds_id, feeds_u32, writeBytes_append]

end Digest

/-! ## The bytes of a policy -/

/-- A tag: a separator and the tag behind its length. -/
def tagBytes (tag : Text) : Text := 0x1F :: putString tag

theorem Digest.feeds_tag : Digest.Feeds Digest.writeTag tagBytes := fun g tag => Digest.writeTag_eq g tag

/-- The scope with its lists in key order. -/
def PolicyScope.sorted (s : PolicyScope) : PolicyScope :=
  { s with
    routes := s.routes.insertionSort fun a b => !(b < a : Bool)
    multipathSets := s.multipathSets.insertionSort fun a b => !(b < a : Bool) }

/-- The semantics with the rules and the priorities in key order. -/
def PolicySemantics.sorted (s : PolicySemantics) : PolicySemantics :=
  { s with
    thresholds := s.thresholds.insertionSort fun a b => a.kind.code ≤ b.kind.code
    improvements := s.improvements.insertionSort fun a b => a.kind.code ≤ b.kind.code
    evidence := s.evidence.insertionSort fun a b => a.kind.code ≤ b.kind.code
    priorities := s.priorities.insertionSort fun a b => !(b.path < a.path : Bool) }

def PolicyScope.digestBytes (s : PolicyScope) : Text := tagBytes "scope" ++ putScope s.sorted

def PolicySemantics.digestBytes (s : PolicySemantics) : Text :=
  tagBytes "semantics" ++ putSemantics s.sorted

/-- The bytes that are fed to the hash for the digest of a policy. -/
def AdaptivePolicy.digestBytes (policy : AdaptivePolicy) : Text :=
  tagBytes "adaptive-policy" ++ putU32 digestEncodingVersion ++ putId policy.id ++
    putId policy.name ++ policy.scope.digestBytes ++ policy.semantics.digestBytes ++
    putU8 policy.lifecycle.code ++ putGeneration policy.generation

namespace Digest

theorem putOptionalId_eq {d : IdDomain} (id : StrongId d) :
    putOption putId (if id.valid then some id else none) = putOptionalId id := by
  unfold putOptionalId
  cases id.valid <;> rfl

theorem feeds_scope : Feeds writeScope PolicyScope.digestBytes := by
  intro g s
  unfold writeScope PolicyScope.digestBytes putScope PolicyScope.sorted
  dsimp only
  rw [feeds_tag, feeds_id, feeds_id, feeds_option feeds_id, feeds_option feeds_id,
    feeds_list feeds_id, feeds_list feeds_id, putOptionalId_eq]
  simp only [writeBytes_append, List.append_assoc]

theorem feeds_semantics : Feeds writeSemantics PolicySemantics.digestBytes := by
  intro g s
  unfold writeSemantics PolicySemantics.digestBytes putSemantics PolicySemantics.sorted
  dsimp only
  rw [feeds_tag, feeds_u32, feeds_id, feeds_option feeds_id, feeds_list feeds_threshold,
    feeds_list feeds_improvement, feeds_list feeds_requirement, feeds_u64, feeds_u64,
    feeds_dampening, feeds_u32, feeds_u64, feeds_u8, feeds_u32, feeds_list feeds_term,
    feeds_emergency, feeds_list feeds_priority]
  simp only [writeBytes_append, List.append_assoc]

end Digest

/-- The digest of a policy is the hash of its bytes. -/
theorem policySemanticDigest_eq (policy : AdaptivePolicy) :
    policySemanticDigest policy = (({} : Digest).writeBytes policy.digestBytes).hex := by
  unfold policySemanticDigest AdaptivePolicy.digestBytes
  dsimp only
  rw [Digest.feeds_tag, Digest.feeds_u32, Digest.feeds_id, Digest.feeds_id, Digest.feeds_scope,
    Digest.feeds_semantics, Digest.feeds_u8, Digest.feeds_generation]
  simp only [Digest.writeBytes_append, List.append_assoc]

/-! ## Reading the bytes back -/

section
open Framing

/-- What a length word counts: every vector is shorter. -/
def maxCount : UInt64 := 18446744073709551615

theorem le_maxCount {n : Nat} (h : n < UInt64.size) : n ≤ maxCount.toNat := Nat.le_of_lt_succ h

/-- The lengths of the lists are words, and the identities in them are identities. -/
structure PolicySemantics.Counted (s : PolicySemantics) : Prop where
  thresholds : s.thresholds.length < UInt64.size
  improvements : s.improvements.length < UInt64.size
  evidence : s.evidence.length < UInt64.size ∧ ∀ requirement ∈ s.evidence, requirement.valid = true
  terms : s.objective.terms.length < UInt64.size
  priorities : s.priorities.length < UInt64.size ∧ ∀ entry ∈ s.priorities, entry.path.valid = true

def PolicyScope.Counted (s : PolicyScope) : Prop :=
  s.routes.length < UInt64.size ∧ s.multipathSets.length < UInt64.size

theorem putIds_delimited {d : IdDomain} :
    Delimited (fun ids : List (StrongId d) => ids.length < UInt64.size) (putList putId) :=
  (getList_canonical getMaybeId_canonical maxCount).delimited.mono fun _ h =>
    ⟨le_maxCount h, fun _ _ => trivial⟩

theorem putScope_delimited : Delimited PolicyScope.Counted putScope := by
  intro a b ha hb r s h
  simp only [putScope, List.append_assoc] at h
  obtain ⟨hfabric, h⟩ := getMaybeId_canonical.delimited trivial trivial _ _ h
  obtain ⟨hspace, h⟩ := getMaybeId_canonical.delimited trivial trivial _ _ h
  obtain ⟨hsite, h⟩ := (getOption_canonical getMaybeId_canonical).delimited
    (fun _ _ => trivial) (fun _ _ => trivial) _ _ h
  obtain ⟨hclass, h⟩ := getOptionalId_canonical.delimited trivial trivial _ _ h
  obtain ⟨hroutes, h⟩ := putIds_delimited ha.1 hb.1 _ _ h
  obtain ⟨hsets, h⟩ := putIds_delimited ha.2 hb.2 _ _ h
  refine ⟨?_, h⟩
  cases a
  cases b
  cases hfabric
  cases hspace
  cases hsite
  cases hclass
  cases hroutes
  cases hsets
  rfl

theorem putSemantics_delimited : Delimited PolicySemantics.Counted putSemantics := by
  intro a b ha hb r s h
  simp only [putSemantics, List.append_assoc] at h
  obtain ⟨hversion, h⟩ := getU32_canonical.delimited trivial trivial _ _ h
  obtain ⟨hroute, h⟩ := getMaybeId_canonical.delimited trivial trivial _ _ h
  obtain ⟨hset, h⟩ := (getOption_canonical getMaybeId_canonical).delimited
    (fun _ _ => trivial) (fun _ _ => trivial) _ _ h
  obtain ⟨hthresholds, h⟩ := (getList_canonical getThreshold_canonical maxCount).delimited
    ⟨le_maxCount ha.thresholds, fun _ _ => trivial⟩ ⟨le_maxCount hb.thresholds, fun _ _ => trivial⟩ _ _ h
  obtain ⟨himprovements, h⟩ := (getList_canonical getImprovement_canonical maxCount).delimited
    ⟨le_maxCount ha.improvements, fun _ _ => trivial⟩
    ⟨le_maxCount hb.improvements, fun _ _ => trivial⟩ _ _ h
  obtain ⟨hevidence, h⟩ := (getList_canonical getRequirement_canonical maxCount).delimited
    ⟨le_maxCount ha.evidence.1, ha.evidence.2⟩ ⟨le_maxCount hb.evidence.1, hb.evidence.2⟩ _ _ h
  obtain ⟨hholdDown, h⟩ := getU64_canonical.delimited trivial trivial _ _ h
  obtain ⟨hcooldown, h⟩ := getU64_canonical.delimited trivial trivial _ _ h
  obtain ⟨hdampening, h⟩ := getDampening_canonical.delimited trivial trivial _ _ h
  obtain ⟨hmaximum, h⟩ := getU32_canonical.delimited trivial trivial _ _ h
  obtain ⟨hwindow, h⟩ := getU64_canonical.delimited trivial trivial _ _ h
  obtain ⟨hmode, h⟩ := objectiveModes_canonical.delimited trivial trivial _ _ h
  obtain ⟨hscoring, h⟩ := getU32_canonical.delimited trivial trivial _ _ h
  obtain ⟨hterms, h⟩ := (getList_canonical getTerm_canonical maxCount).delimited
    ⟨le_maxCount ha.terms, fun _ _ => trivial⟩ ⟨le_maxCount hb.terms, fun _ _ => trivial⟩ _ _ h
  obtain ⟨hemergency, h⟩ := getEmergency_canonical.delimited trivial trivial _ _ h
  obtain ⟨hpriorities, h⟩ := (getList_canonical getPriority_canonical maxCount).delimited
    ⟨le_maxCount ha.priorities.1, ha.priorities.2⟩ ⟨le_maxCount hb.priorities.1, hb.priorities.2⟩ _ _ h
  refine ⟨?_, h⟩
  obtain ⟨_, ⟨_, _⟩, _, _, _, ⟨_⟩, ⟨_⟩, _, ⟨_, _⟩, ⟨_, _, _⟩, _, _⟩ := a
  obtain ⟨_, ⟨_, _⟩, _, _, _, ⟨_⟩, ⟨_⟩, _, ⟨_, _⟩, ⟨_, _, _⟩, _, _⟩ := b
  simp_all

end

/-! ## Key order -/

/-- The lists are the same up to their order. -/
structure PolicyScope.Alike (s t : PolicyScope) : Prop where
  fabric : s.fabric = t.fabric
  nameSpace : s.nameSpace = t.nameSpace
  site : s.site = t.site
  pathClass : s.pathClass = t.pathClass
  routes : s.routes.Perm t.routes
  multipathSets : s.multipathSets.Perm t.multipathSets

/-- The rules keyed by a metric and the priorities are the same up to their order. -/
structure PolicySemantics.Alike (s t : PolicySemantics) : Prop where
  target : s.target = t.target
  thresholds : s.thresholds.Perm t.thresholds
  improvements : s.improvements.Perm t.improvements
  evidence : s.evidence.Perm t.evidence
  holdDown : s.holdDown = t.holdDown
  cooldown : s.cooldown = t.cooldown
  dampening : s.dampening = t.dampening
  churn : s.churn = t.churn
  objective : s.objective = t.objective
  emergency : s.emergency = t.emergency
  priorities : s.priorities.Perm t.priorities

section
variable {α : Type} {xs ys : List α}

theorem sortedById_eq_iff {d : IdDomain} (key : α → StrongId d) (ys : List α)
    (hkey : ∀ a ∈ xs, ∀ b ∈ xs, key a = key b → a = b) :
    (xs.insertionSort fun a b => !(key b < key a : Bool)) =
      (ys.insertionSort fun a b => !(key b < key a : Bool)) ↔ xs.Perm ys := by
  have hle : ∀ a b : StrongId d, (!(b < a : Bool)) = true ↔ (compare a b).isLE := by
    intro a b
    have hswap : compare a b = (compare b a).swap := Std.OrientedCmp.eq_swap
    change (!decide (compare b a = .lt)) = true ↔ _
    rw [hswap]
    cases compare b a <;> decide
  refine Ranking.sortedBy_eq_iff key (fun a b : StrongId d => (!(b < a : Bool)) = true)
    (fun a b => ?_) (fun a b c hab hbc => ?_) (fun a b hab hba => ?_) hkey
  · rw [hle, hle]
    have hswap : compare b a = (compare a b).swap := Std.OrientedCmp.eq_swap
    rw [hswap]
    cases compare a b <;> simp
  · rw [hle] at hab hbc ⊢
    exact Std.TransCmp.isLE_trans hab hbc
  · rw [hle] at hab hba
    exact Std.LawfulEqCmp.eq_of_compare (Std.OrientedCmp.isLE_antisymm hab hba)

theorem sortedByKind_eq_iff {kind : α → MetricKind} (ys : List α) (hkey : (xs.map kind).Nodup) :
    (xs.insertionSort fun a b => (kind a).code ≤ (kind b).code) =
      (ys.insertionSort fun a b => (kind a).code ≤ (kind b).code) ↔ xs.Perm ys := by
  refine Ranking.sortedBy_eq_iff (fun a => (kind a).code) (fun a b : UInt8 => a ≤ b)
    (fun a b => UInt8.le_total a b) (fun a b c => UInt8.le_trans) (fun a b => UInt8.le_antisymm) ?_
  intro a ha b hb hcode
  exact List.inj_on_of_nodup_map hkey ha hb (MetricKind.code_injective hcode)

end

theorem PolicyScope.sorted_eq_iff {s t : PolicyScope} : s.sorted = t.sorted ↔ s.Alike t := by
  have hids {d : IdDomain} {xs ys : List (StrongId d)} :
      (xs.insertionSort fun a b => !(b < a : Bool)) = (ys.insertionSort fun a b => !(b < a : Bool)) ↔
        xs.Perm ys :=
    sortedById_eq_iff (fun id => id) _ fun _ _ _ _ => id
  constructor
  · intro h
    obtain ⟨hfabric, hspace, hsite, hclass, hroutes, hsets⟩ := PolicyScope.mk.inj h
    exact ⟨hfabric, hspace, hsite, hclass, hids.1 hroutes, hids.1 hsets⟩
  · intro h
    unfold PolicyScope.sorted
    rw [hids.2 h.routes, hids.2 h.multipathSets]
    obtain ⟨hfabric, hspace, hsite, hclass, -, -⟩ := h
    cases s
    cases t
    cases hfabric
    cases hspace
    cases hsite
    cases hclass
    rfl

/-- No two rules of one sort are keyed alike, nor two priorities. -/
structure PolicySemantics.Keyed (s : PolicySemantics) : Prop where
  thresholds : (s.thresholds.map (·.kind)).Nodup
  improvements : (s.improvements.map (·.kind)).Nodup
  evidence : (s.evidence.map (·.kind)).Nodup
  priorities : (s.priorities.map (·.path)).Nodup

theorem PolicySemantics.sorted_eq_iff {s t : PolicySemantics} (hs : s.Keyed)
    (hversion : s.semanticsVersion = t.semanticsVersion) : s.sorted = t.sorted ↔ s.Alike t := by
  have hthresholds := sortedByKind_eq_iff t.thresholds hs.thresholds
  have himprovements := sortedByKind_eq_iff t.improvements hs.improvements
  have hevidence := sortedByKind_eq_iff t.evidence hs.evidence
  have hpriorities := sortedById_eq_iff CandidatePriority.path t.priorities
    fun a ha b hb => List.inj_on_of_nodup_map hs.priorities ha hb
  constructor
  · intro h
    obtain ⟨-, htarget, hthreshold, himprovement, hrequirement, hholdDown, hcooldown, hdampening, hchurn,
      hobjective, hemergency, hpriority⟩ := PolicySemantics.mk.inj h
    exact ⟨htarget, hthresholds.1 hthreshold, himprovements.1 himprovement, hevidence.1 hrequirement,
      hholdDown, hcooldown, hdampening, hchurn, hobjective, hemergency, hpriorities.1 hpriority⟩
  · intro h
    unfold PolicySemantics.sorted
    rw [hthresholds.2 h.thresholds, himprovements.2 h.improvements, hevidence.2 h.evidence,
      hpriorities.2 h.priorities, hversion, h.target, h.holdDown, h.cooldown, h.dampening, h.churn,
      h.objective, h.emergency]

/-! ## Valid policies -/

/-- A valid policy whose lists are as long as vectors can be. -/
structure AdaptivePolicy.WellFormed (policy : AdaptivePolicy) : Prop where
  scope : policy.scope.wellFormed = true
  semantics : policy.semantics.check = .ok ()
  sizes : ∀ size ∈ [policy.scope.routes.length, policy.scope.multipathSets.length,
    policy.semantics.thresholds.length, policy.semantics.improvements.length,
    policy.semantics.evidence.length, policy.semantics.objective.terms.length,
    policy.semantics.priorities.length], size < UInt64.size

/-- The policies say the same. -/
structure AdaptivePolicy.Alike (p q : AdaptivePolicy) : Prop where
  id : p.id = q.id
  name : p.name = q.name
  scope : p.scope.Alike q.scope
  semantics : p.semantics.Alike q.semantics
  lifecycle : p.lifecycle = q.lifecycle
  generation : p.generation = q.generation

theorem PolicySemantics.keyed_of_check {s : PolicySemantics} (h : s.check = .ok ()) :
    s.semanticsVersion = policySemanticsVersion ∧ s.Keyed ∧
      (∀ requirement ∈ s.evidence, requirement.valid = true) ∧
      ∀ entry ∈ s.priorities, entry.path.valid = true := by
  unfold PolicySemantics.check at h
  obtain ⟨hversion, h⟩ := seq_ok h
  iterate 4 obtain ⟨-, h⟩ := seq_ok h
  obtain ⟨himprovements, h⟩ := seq_ok h
  obtain ⟨hthresholds, h⟩ := seq_ok h
  obtain ⟨-, h⟩ := seq_ok h
  obtain ⟨hrequirements, h⟩ := seq_ok h
  obtain ⟨hevidence, h⟩ := seq_ok h
  iterate 6 obtain ⟨-, h⟩ := seq_ok h
  obtain ⟨hpaths, h⟩ := seq_ok h
  obtain ⟨hpriorities, -⟩ := seq_ok h
  have hdistinct {α : Type} [DecidableEq α] {values : List α} (h : hasDuplicates values = false) :
      values.Nodup := by simpa [hasDuplicates] using h
  refine ⟨by simpa using hversion, ⟨hdistinct hthresholds, hdistinct himprovements,
    hdistinct hevidence, hdistinct hpriorities⟩, fun requirement hmem => ?_, fun entry hmem => ?_⟩
  · simpa using List.any_eq_false.1 hrequirements requirement hmem
  · simpa using List.any_eq_false.1 hpaths entry hmem

theorem AdaptivePolicy.WellFormed.counted {policy : AdaptivePolicy} (h : policy.WellFormed) :
    policy.scope.sorted.Counted ∧ policy.semantics.sorted.Counted := by
  obtain ⟨-, -, hvalid, hpaths⟩ := PolicySemantics.keyed_of_check h.semantics
  obtain ⟨hroutes, hsets, hthresholds, himprovements, hevidence, hterms, hpriorities⟩ :
      policy.scope.routes.length < UInt64.size ∧ policy.scope.multipathSets.length < UInt64.size ∧
      policy.semantics.thresholds.length < UInt64.size ∧
      policy.semantics.improvements.length < UInt64.size ∧
      policy.semantics.evidence.length < UInt64.size ∧
      policy.semantics.objective.terms.length < UInt64.size ∧
      policy.semantics.priorities.length < UInt64.size := by
    simpa using h.sizes
  have hlength {α : Type} {r : α → α → Prop} [DecidableRel r] {values : List α}
      (h : values.length < UInt64.size) : (values.insertionSort r).length < UInt64.size := by
    rwa [List.length_insertionSort]
  have hmem {α : Type} {r : α → α → Prop} [DecidableRel r] {values : List α} {P : α → Prop}
      (h : ∀ a ∈ values, P a) : ∀ a ∈ values.insertionSort r, P a :=
    fun a ha => h a ((List.perm_insertionSort r values).mem_iff.1 ha)
  exact ⟨⟨hlength hroutes, hlength hsets⟩, hlength hthresholds, hlength himprovements,
    ⟨hlength hevidence, hmem hvalid⟩, hterms, hlength hpriorities, hmem hpaths⟩

/-- The bytes of the digest tell a policy, up to the order of its sets. -/
theorem digestBytes_inj {p q : AdaptivePolicy} (hp : p.WellFormed) (hq : q.WellFormed)
    (h : p.digestBytes = q.digestBytes) :
    p.id = q.id ∧ p.name = q.name ∧ p.scope.sorted = q.scope.sorted ∧
      p.semantics.sorted = q.semantics.sorted ∧ p.lifecycle = q.lifecycle ∧
      p.generation = q.generation := by
  simp only [AdaptivePolicy.digestBytes, PolicyScope.digestBytes, PolicySemantics.digestBytes,
    List.append_assoc] at h
  have h := List.append_cancel_left (List.append_cancel_left h)
  obtain ⟨hid, h⟩ := getMaybeId_canonical.delimited trivial trivial _ _ h
  obtain ⟨hname, h⟩ := getMaybeId_canonical.delimited trivial trivial _ _ h
  obtain ⟨hscope, h⟩ := putScope_delimited hp.counted.1 hq.counted.1 _ _ (List.append_cancel_left h)
  obtain ⟨hsemantics, h⟩ :=
    putSemantics_delimited hp.counted.2 hq.counted.2 _ _ (List.append_cancel_left h)
  obtain ⟨hlifecycle, h⟩ := policyLifecycles_canonical.delimited trivial trivial _ _ h
  exact ⟨hid, hname, hscope, hsemantics, hlifecycle,
    getMaybeGeneration_canonical.delimited.inj trivial trivial h⟩

/-- The digest of a policy is the hash of its bytes, and two valid policies have the same bytes
exactly when they are alike. -/
theorem digestBytes_eq_iff :
    (∀ policy : AdaptivePolicy,
      policySemanticDigest policy = (({} : Digest).writeBytes policy.digestBytes).hex) ∧
    ∀ p q : AdaptivePolicy, p.WellFormed → q.WellFormed →
      (p.digestBytes = q.digestBytes ↔ p.Alike q) := by
  refine ⟨policySemanticDigest_eq, fun p q hp hq => ?_⟩
  obtain ⟨hversion, hkeyed, -⟩ := PolicySemantics.keyed_of_check hp.semantics
  have hversions := hversion.trans (PolicySemantics.keyed_of_check hq.semantics).1.symm
  constructor
  · intro h
    obtain ⟨hid, hname, hscope, hsemantics, hlifecycle, hgeneration⟩ := digestBytes_inj hp hq h
    exact ⟨hid, hname, PolicyScope.sorted_eq_iff.1 hscope,
      (PolicySemantics.sorted_eq_iff hkeyed hversions).1 hsemantics, hlifecycle, hgeneration⟩
  · intro h
    have hscope := PolicyScope.sorted_eq_iff.2 h.scope
    have hsemantics := (PolicySemantics.sorted_eq_iff hkeyed hversions).2 h.semantics
    unfold AdaptivePolicy.digestBytes PolicyScope.digestBytes PolicySemantics.digestBytes
    rw [h.id, h.name, hscope, hsemantics, h.lifecycle, h.generation]

namespace Scenario

/-- A policy for these routes. -/
def scopedTo (routes : List RouteId) (declaredAt : Ticks) : AdaptivePolicy where
  id := policy
  name := name "policy"
  scope := { fabric := name "fabric", nameSpace := name "space", routes }
  semantics := semantics
  declaredAt := declaredAt

theorem scopedTo_wellFormed : (scopedTo [name "left", name "right"] 1).WellFormed ∧
    (scopedTo [name "right", name "left"] 2).WellFormed :=
  ⟨⟨by decide, by decide, by decide⟩, ⟨by decide, by decide, by decide⟩⟩

end Scenario

open Scenario in
/-- The order of the routes and the time of the declaration are not digested. -/
theorem scopedTo_alike :
    (scopedTo [name "left", name "right"] 1).digestBytes =
      (scopedTo [name "right", name "left"] 2).digestBytes := by
  have hwellFormed := scopedTo_wellFormed
  refine (digestBytes_eq_iff.2 _ _ hwellFormed.1 hwellFormed.2).2 ⟨rfl, rfl, ?_, ?_, rfl, rfl⟩
  · exact ⟨rfl, rfl, rfl, rfl, .swap _ _ _, .rfl⟩
  · exact ⟨rfl, .rfl, .rfl, .rfl, rfl, rfl, rfl, rfl, rfl, rfl, .rfl⟩

end AdaptiveRouting
