import AdaptiveRouting.Lib.Lockstep
import AdaptiveRouting.Lib.Pointwise
import AdaptiveRouting.Proof.Currentness

/-!
# Twin states

Two states that tell apart minted identities, worker boots, sessions, attempts and the origin of the
clock only (`State.Twin`). What an evaluation reads of a record or a series is its `face`: the instants
are counted from an origin and the rest of what may differ is blanked. Captures of twins have the same
face (`Twin.resolveEvidence`), so the evaluations of their inputs rank the same and pass the same gates
(`EvaluationInputs.Twin`).
-/

namespace AdaptiveRouting

open Guard

/-! ## Instants -/

/-- A clock reading counted from an origin. -/
def elapsed (origin : Int) (t : Ticks) : Int := t.toNat - origin

section
variable {o o' : Int} {a b a' b' : Ticks}

theorem elapsed_le (ha : elapsed o' a' = elapsed o a) (hb : elapsed o' b' = elapsed o b) :
    a' ≤ b' ↔ a ≤ b := by
  unfold elapsed at ha hb
  rw [UInt64.le_iff_toNat_le, UInt64.le_iff_toNat_le]
  omega

theorem elapsed_lt (ha : elapsed o' a' = elapsed o a) (hb : elapsed o' b' = elapsed o b) :
    a' < b' ↔ a < b := by
  unfold elapsed at ha hb
  rw [UInt64.lt_iff_toNat_lt, UInt64.lt_iff_toNat_lt]
  omega

/-- Durations do not depend on the origin. -/
theorem elapsed_sub (ha : elapsed o' a' = elapsed o a) (hb : elapsed o' b' = elapsed o b)
    (h : a ≤ b) : b' - a' = b - a := by
  have h' := (elapsed_le ha hb).2 h
  apply UInt64.toNat_inj.1
  rw [UInt64.toNat_sub_of_le _ _ h, UInt64.toNat_sub_of_le _ _ h']
  unfold elapsed at ha hb
  omega

end

/-! ## Identities -/

/-- A change of identities that keeps them apart, and keeps which are valid. -/
structure Renaming (d : IdDomain) where
  apply : StrongId d → StrongId d
  injective : Function.Injective apply
  valid : ∀ id, (apply id).valid = id.valid

/-- Two identities trade places. -/
def Renaming.swap {d : IdDomain} (a b : StrongId d) (h : a.valid = b.valid) : Renaming d where
  apply := Equiv.swap a b
  injective := (Equiv.swap a b).injective
  valid id := by
    rw [Equiv.swap_apply_def]
    split
    · rename_i hid
      rw [hid, h]
    · split
      · rename_i hid
        rw [hid, h]
      · rfl

theorem Renaming.bne {d : IdDomain} (r : Renaming d) (a b : StrongId d) :
    (r.apply a != r.apply b) = (a != b) := by
  rw [Bool.eq_iff_iff, bne_iff_ne, bne_iff_ne, r.injective.ne_iff]

/-- How a state is carried over to its twin: other incarnations, sessions and attempts, and a clock
that is ahead by a constant. -/
structure Translation where
  boots : Renaming .workerBootId
  sessions : Renaming .sessionId
  attempts : Renaming .mutationAttemptId
  offset : Int

def MutationContext.translate (t : Translation) (c : MutationContext) : MutationContext :=
  { c with
    workerBoot := t.boots.apply c.workerBoot
    session := t.sessions.apply c.session
    attempt := t.attempts.apply c.attempt }

def EvaluateRequest.translate (t : Translation) (r : EvaluateRequest) : EvaluateRequest :=
  { r with context := r.context.translate t }

/-- The second reading is the first one on the clock of the twin. -/
def Translation.Reads (t : Translation) (now now' : Ticks) : Prop :=
  elapsed t.offset now' = elapsed 0 now

instance (t : Translation) (now now' : Ticks) : Decidable (t.Reads now now') :=
  inferInstanceAs (Decidable (elapsed t.offset now' = elapsed 0 now))

theorem MutationContext.translate_identity (t : Translation) (c : MutationContext) :
    (c.translate t).hasCallerIdentity = c.hasCallerIdentity := by
  unfold hasCallerIdentity translate
  dsimp only
  rw [t.boots.valid, t.sessions.valid, t.attempts.valid]

/-! ## Faces -/

def EvidenceSample.face (origin : Int) (sample : EvidenceSample) : EvidenceSample × Int :=
  ({ sample with acceptedAt := 0 }, elapsed origin sample.acceptedAt)

def EvidenceSeries.face (origin : Int) (series : EvidenceSeries) :
    EvidenceSeries × List (EvidenceSample × Int) :=
  ({ series with samples := [], totalPublished := 0 }, series.samples.map (·.face origin))

def EvidenceAggregate.face (origin : Int) (a : EvidenceAggregate) : EvidenceAggregate × Int × Int :=
  ({ a with oldestObservedAt := 0, newestObservedAt := 0 },
    elapsed origin a.oldestObservedAt, elapsed origin a.newestObservedAt)

def ResolvedEvidence.face (origin : Int) (r : ResolvedEvidence) :
    ResolvedEvidence × EvidenceAggregate × Int × Int :=
  ({ r with aggregate := { value := default } }, r.aggregate.face origin)

/-- The timing the gates read: a deadline counts while it is active. -/
structure TimingFace where
  holdDown : Option Int
  cooldown : Option Int
  penalty : UInt32
  churn : List Int
  deriving DecidableEq, Repr

def TimingState.face (origin : Int) (t : TimingState) : TimingFace where
  holdDown := if t.holdDownActive then some (elapsed origin t.holdDownDeadline) else none
  cooldown := if t.cooldownActive then some (elapsed origin t.cooldownDeadline) else none
  penalty := t.dampeningPenalty
  churn := t.churnCommits.map (elapsed origin)

/-- A preference without who installed it, and when. -/
def RoutingPreference.face (p : RoutingPreference) : RoutingPreference :=
  { p with transition := default, decision := default, provenance := {}, committedAt := 0 }

def AdaptivePolicy.face (p : AdaptivePolicy) : AdaptivePolicy :=
  { p with declaredAt := 0, updatedAt := 0 }

/-- A record as both phases read it: without its anchor, its history and its revocation. -/
def PolicyRecord.face (origin : Int) (r : PolicyRecord) : PolicyRecord × TimingFace :=
  ({ policy := r.policy.face, candidates := r.candidates, preference := r.preference.face },
    r.timing.face origin)

/-! ## Twins -/

/-- The states differ in minted identities, boots, sessions, attempts and the origin of the clock. The
journal, the histories, the retained snapshots and the indexes are not compared at all. -/
structure State.Twin (t : Translation) (s s' : State) : Prop where
  epoch : s'.epoch = s.epoch
  authorityGeneration : s'.authorityGeneration = s.authorityGeneration
  evidenceGeneration : s'.evidenceGeneration = s.evidenceGeneration
  evidenceWatermark : s'.evidenceWatermark = s.evidenceWatermark
  upstreamWatermark : s'.upstreamWatermark = s.upstreamWatermark
  policies : ∀ policy : AdaptivePolicyId,
    s'.policies[policy]?.map (·.face t.offset) = s.policies[policy]?.map (·.face 0)
  evidence : ∀ key : EvidenceKey,
    s'.evidence[key]?.map (·.face t.offset) = s.evidence[key]?.map (·.face 0)
  registrations : ∀ publisher : PublisherId,
    s'.registrations[publisher]?.map (fun r => (r.scope, r.workerBoot, r.session)) =
      s.registrations[publisher]?.map fun r =>
        (r.scope, t.boots.apply r.workerBoot, t.sessions.apply r.session)
  fencedBoots : ∀ boot, s'.fencedBoots.contains (t.boots.apply boot) = s.fencedBoots.contains boot
  attempts : ∀ attempt : MutationAttemptId,
    s'.attempts[t.attempts.apply attempt]?.map (·.fingerprint) =
      s.attempts[attempt]?.map (·.fingerprint)

structure Engine.Twin (t : Translation) (e e' : Engine) : Prop where
  state : e.state.Twin t e'.state
  outstanding : e'.outstanding = e.outstanding

/-! ## Captured evidence -/

section
variable {o o' : Int}

theorem EvidenceAggregate.age_face {a a' : EvidenceAggregate} {now now' : Ticks}
    (h : a'.face o' = a.face o) (hnow : elapsed o' now' = elapsed o now) : a'.age now' = a.age now := by
  have hnewest : elapsed o' a'.newestObservedAt = elapsed o a.newestObservedAt :=
    congrArg (fun face => face.2.2) h
  have hle := elapsed_le hnewest hnow
  unfold age
  by_cases hpast : a.newestObservedAt ≤ now
  · rw [if_pos hpast, if_pos (hle.2 hpast), elapsed_sub hnewest hnow hpast]
  · rw [if_neg hpast, if_neg (mt hle.1 hpast)]

theorem EvidenceAggregate.window_face {a a' : EvidenceAggregate} (h : a'.face o' = a.face o) :
    a'.window = a.window := by
  have holdest : elapsed o' a'.oldestObservedAt = elapsed o a.oldestObservedAt :=
    congrArg (fun face => face.2.1) h
  have hnewest : elapsed o' a'.newestObservedAt = elapsed o a.newestObservedAt :=
    congrArg (fun face => face.2.2) h
  have hle := elapsed_le holdest hnewest
  unfold window
  by_cases hordered : a.oldestObservedAt ≤ a.newestObservedAt
  · rw [if_pos hordered, if_pos (hle.2 hordered), elapsed_sub holdest hnewest hordered]
  · rw [if_neg hordered, if_neg (mt hle.1 hordered)]

theorem EvidenceSample.values_face {samples samples' : List EvidenceSample}
    (h : samples'.map (·.face o') = samples.map (·.face o)) :
    samples'.map (·.value.value) = samples.map (·.value.value) := by
  have hread (origin : Int) (samples : List EvidenceSample) : samples.map (·.value.value) =
      (samples.map (·.face origin)).map fun face => face.1.value.value := by
    rw [List.map_map]
    rfl
  rw [hread o', hread o, h]

/-- Samples are sorted by what their faces keep. -/
theorem EvidenceSeries.ordered_face {series series' : EvidenceSeries}
    (h : series'.face o' = series.face o) :
    (series'.samples.insertionSort fun a b => a.observationSequence ≤ b.observationSequence).map
        (·.face o') =
      (series.samples.insertionSort fun a b => a.observationSequence ≤ b.observationSequence).map
        (·.face o) := by
  have hsort (origin : Int) (samples : List EvidenceSample) :
      (samples.insertionSort fun a b => a.observationSequence ≤ b.observationSequence).map
          (·.face origin) =
        (samples.map (·.face origin)).insertionSort fun a b =>
          a.1.observationSequence ≤ b.1.observationSequence :=
    List.map_insertionSort _ _ _ _ fun _ _ _ _ => Iff.rfl
  have hsamples : series'.samples.map (·.face o') = series.samples.map (·.face o) :=
    congrArg Prod.snd h
  rw [hsort, hsort, hsamples]

/-- What a snapshot finds has the face of what a snapshot of the same faces finds. -/
theorem EvidenceSnapshot.find_face {a a' : EvidenceSnapshot}
    (h : a'.values.map (·.face o') = a.values.map (·.face o)) (path : PathId) (kind : MetricKind) :
    (a'.find path kind).map (·.face o') = (a.find path kind).map (·.face o) := by
  have hbound (origin : Int) (values : List ResolvedEvidence) :
      Search.lowerBound (fun element => element.before path kind) values =
        Search.lowerBound (fun face : ResolvedEvidence × EvidenceAggregate × Int × Int =>
          face.1.before path kind) (values.map (·.face origin)) := by
    unfold Search.lowerBound
    rw [Search.loop_map, List.length_map]
    rfl
  unfold find
  rw [hbound o' a'.values, hbound o a.values, h]
  generalize Search.lowerBound _ _ = index
  have hget : (a'.values[index]?).map (·.face o') = (a.values[index]?).map (·.face o) := by
    rw [← List.getElem?_map, ← List.getElem?_map, h]
  cases hfound : a.values[index]? with
  | none =>
    rw [hfound] at hget
    rw [Option.map_eq_none_iff.1 hget]
    rfl
  | some r =>
    rw [hfound] at hget
    obtain ⟨r', hfound', hr⟩ := Option.map_eq_some_iff.1 hget
    have hpath : r'.path = r.path := congrArg (fun face => face.1.path) hr
    have hkind : r'.kind = r.kind := congrArg (fun face => face.1.kind) hr
    rw [hfound']
    dsimp only
    rw [hpath, hkind]
    split
    · exact congrArg some hr
    · rfl

end

namespace State.Twin

section
variable {t : Translation} {s s' : State} (h : s.Twin t s') {record record' : PolicyRecord}
include h

/-- The same series is chosen. -/
theorem chooseSeries (path : PathId) (requirement : EvidenceRequirement) :
    (s'.chooseSeries path requirement).map (·.face t.offset) =
      (s.chooseSeries path requirement).map (·.face 0) := by
  have hentries : List.Forall₂ (fun entry entry' : EvidenceKey × EvidenceSeries =>
      (entry'.1, entry'.2.face t.offset) = (entry.1, entry.2.face 0))
      s.evidence.toList s'.evidence.toList := by
    have hlists := Pointwise.map_toList_congr h.evidence
    rw [← List.forall₂_eq_eq_eq, List.forall₂_map_left_iff, List.forall₂_map_right_iff] at hlists
    exact hlists.flip
  unfold State.chooseSeries
  refine List.rel_foldl (P := fun chosen chosen' : Option EvidenceSeries =>
    chosen'.map (·.face t.offset) = chosen.map (·.face 0)) ?_ rfl hentries
  intro chosen chosen' hchosen entry entry' hentry
  obtain ⟨hkey, hseries⟩ := Prod.mk.inj hentry
  have hquality : entry'.2.quality = entry.2.quality := congrArg (fun face => face.1.quality) hseries
  have hempty : entry'.2.samples.isEmpty = entry.2.samples.isEmpty := by
    simpa [EvidenceSeries.face] using congrArg (fun face => face.2.isEmpty) hseries
  dsimp only
  rw [hkey, hquality, hempty]
  split
  · exact hchosen
  · cases chosen with
    | none =>
      rw [Option.map_eq_none_iff.1 hchosen]
      exact congrArg some hseries
    | some best =>
      obtain ⟨best', rfl, hbest⟩ := Option.map_eq_some_iff.1 hchosen
      have hbestQuality : best'.quality = best.quality := congrArg (fun face => face.1.quality) hbest
      have hbestSource : best'.source = best.source := congrArg (fun face => face.1.source) hbest
      simp only [hbestQuality, hbestSource, apply_ite (Option.map _), Option.map_some, hseries, hbest]

theorem aggregateFor (path : PathId) (requirement : EvidenceRequirement) :
    (s'.aggregateFor path requirement).map (fun found => (found.1.face t.offset, found.2.face t.offset)) =
      (s.aggregateFor path requirement).map fun found => (found.1.face 0, found.2.face 0) := by
  unfold State.aggregateFor
  refine map_bind_congr (h.chooseSeries path requirement) fun series series' hseries => ?_
  -- the samples in observation order have the same faces
  have hordered := EvidenceSeries.ordered_face hseries
  dsimp only
  rw [EvidenceSample.values_face hordered]
  refine map_bind_congr (rfl : Option.map id _ = Option.map id _) fun aggregated _ haggregated => ?_
  subst haggregated
  refine map_bind_congr (rfl : Option.map id _ = Option.map id _) fun value _ hvalue => ?_
  subst hvalue
  have hhead := congrArg List.head? hordered
  have hlast := congrArg List.getLast? hordered
  rw [List.head?_map, List.head?_map] at hhead
  rw [List.getLast?_map, List.getLast?_map] at hlast
  refine map_bind_congr hhead fun oldest oldest' holdest => ?_
  refine map_bind_congr hlast fun newest newest' hnewest => ?_
  have hold : elapsed t.offset oldest'.acceptedAt = elapsed 0 oldest.acceptedAt :=
    congrArg Prod.snd holdest
  have hnew : elapsed t.offset newest'.acceptedAt = elapsed 0 newest.acceptedAt :=
    congrArg Prod.snd hnewest
  refine congrArg some (Prod.ext ?_ hseries)
  unfold EvidenceAggregate.face
  dsimp only [id]
  rw [hold, hnew]

/-- Twins resolve the same evidence for the same candidates and requirements. -/
theorem resolveEvidence (hcandidates : record'.candidates = record.candidates)
    (hsemantics : record'.policy.semantics = record.policy.semantics) :
    (s'.resolveEvidence record').map (·.face t.offset) = (s.resolveEvidence record).map (·.face 0) := by
  unfold State.resolveEvidence
  rw [hcandidates, hsemantics, List.map_flatMap, List.map_flatMap]
  refine congrArg (List.flatMap · record.candidates) (funext fun candidate => ?_)
  rw [List.map_filterMap, List.map_filterMap]
  refine congrArg (List.filterMap · record.policy.semantics.evidence) (funext fun requirement => ?_)
  rw [Option.map_map, Option.map_map]
  refine map_congr_of_map (h.aggregateFor candidate.binding.path requirement) fun found found' hfound => ?_
  obtain ⟨haggregate, hseries⟩ := Prod.mk.inj hfound
  have hquality : found'.2.quality = found.2.quality := congrArg (fun face => face.1.quality) hseries
  have hsource : found'.2.source = found.2.source := congrArg (fun face => face.1.source) hseries
  have hgeneration : found'.2.sourceGeneration = found.2.sourceGeneration :=
    congrArg (fun face => face.1.sourceGeneration) hseries
  unfold ResolvedEvidence.face
  dsimp only [Function.comp_apply]
  rw [haggregate, hquality, hsource, hgeneration]

/-- So captures of twins find the same. -/
theorem captureEvidence_find (hcandidates : record'.candidates = record.candidates)
    (hsemantics : record'.policy.semantics = record.policy.semantics) (now now' : Ticks)
    (id id' : EvidenceSnapshotId) (path : PathId) (kind : MetricKind) :
    ((s'.captureEvidence now' id' record').find path kind).map (·.face t.offset) =
      ((s.captureEvidence now id record).find path kind).map (·.face 0) := by
  have hsort (origin : Int) (values : List ResolvedEvidence) :
      (values.insertionSort fun a b => !b.before a.path a.kind).map (·.face origin) =
        (values.map (·.face origin)).insertionSort fun a b => !b.1.before a.1.path a.1.kind :=
    List.map_insertionSort _ _ _ _ fun _ _ _ _ => Iff.rfl
  refine EvidenceSnapshot.find_face ?_ path kind
  unfold State.captureEvidence EvidenceSnapshot.finish
  dsimp only
  rw [hsort, hsort, h.resolveEvidence hcandidates hsemantics]

end

end State.Twin

/-! ## Evaluations -/

section
variable {o o' : Int}

/-- What is left until a deadline. -/
theorem remaining_face {deadline deadline' now now' : Ticks}
    (hdeadline : elapsed o' deadline' = elapsed o deadline) (hnow : elapsed o' now' = elapsed o now) :
    (if now' ≥ deadline' then 0 else deadline' - now') = if now ≥ deadline then 0 else deadline - now := by
  have hle := elapsed_le hdeadline hnow
  by_cases hover : deadline ≤ now
  · rw [if_pos hover, if_pos (hle.2 hover)]
  · rw [if_neg hover, if_neg (mt hle.1 hover), elapsed_sub hnow hdeadline]
    exact (UInt64.le_total now deadline).resolve_right hover

theorem outstanding_face {deadline deadline' now now' : Ticks}
    (hdeadline : elapsed o' deadline' = elapsed o deadline) (hnow : elapsed o' now' = elapsed o now) :
    (if deadline' > now' then deadline' - now' else 0) = if deadline > now then deadline - now else 0 := by
  have hlt := elapsed_lt hnow hdeadline
  by_cases hahead : now < deadline
  · rw [if_pos hahead, if_pos (hlt.2 hahead), elapsed_sub hnow hdeadline (UInt64.le_of_lt hahead)]
  · rw [if_neg hahead, if_neg (mt hlt.1 hahead)]

namespace TimingState

variable {timing timing' : TimingState}

theorem holdDown_face (h : timing'.face o' = timing.face o) :
    timing'.holdDownActive = timing.holdDownActive ∧ (timing.holdDownActive = true →
      elapsed o' timing'.holdDownDeadline = elapsed o timing.holdDownDeadline) := by
  have hface : (if timing'.holdDownActive then some (elapsed o' timing'.holdDownDeadline) else none) =
      if timing.holdDownActive then some (elapsed o timing.holdDownDeadline) else none :=
    congrArg TimingFace.holdDown h
  cases hactive : timing.holdDownActive <;> cases hactive' : timing'.holdDownActive <;>
    simp [hactive, hactive'] at hface ⊢
  exact hface

theorem cooldown_face (h : timing'.face o' = timing.face o) :
    timing'.cooldownActive = timing.cooldownActive ∧ (timing.cooldownActive = true →
      elapsed o' timing'.cooldownDeadline = elapsed o timing.cooldownDeadline) := by
  have hface : (if timing'.cooldownActive then some (elapsed o' timing'.cooldownDeadline) else none) =
      if timing.cooldownActive then some (elapsed o timing.cooldownDeadline) else none :=
    congrArg TimingFace.cooldown h
  cases hactive : timing.cooldownActive <;> cases hactive' : timing'.cooldownActive <;>
    simp [hactive, hactive'] at hface ⊢
  exact hface

/-- Commits inside a window are counted by their age. -/
theorem recentCommits_face (h : timing'.face o' = timing.face o) {now now' : Ticks}
    (hnow : elapsed o' now' = elapsed o now) (churn : ChurnBounds) :
    recentCommits churn timing' now' = recentCommits churn timing now := by
  have hstamps : timing'.churnCommits.map (elapsed o') = timing.churnCommits.map (elapsed o) :=
    congrArg TimingFace.churn h
  unfold recentCommits
  generalize timing'.churnCommits = stamps' at hstamps
  generalize timing.churnCommits = stamps at hstamps
  induction stamps generalizing stamps' with
  | nil =>
    obtain rfl := List.map_eq_nil_iff.1 hstamps
    rfl
  | cons stamp rest ih =>
    obtain ⟨stamp', rest', rfl, hstamp, hrest⟩ := List.map_eq_cons_iff.1 hstamps
    have hpast := elapsed_le hstamp hnow
    rw [List.countP_cons, List.countP_cons, ih rest' hrest]
    by_cases hbefore : stamp ≤ now
    · simp [hbefore, hpast.2 hbefore, elapsed_sub hstamp hnow hbefore]
    · simp [hbefore, mt hpast.1 hbefore]

end TimingState

end

/-- Inputs captured from twins. -/
structure EvaluationInputs.Twin (t : Translation) (inputs inputs' : EvaluationInputs) : Prop where
  semantics : inputs'.policy.semantics = inputs.policy.semantics
  candidates : inputs'.candidates = inputs.candidates
  preference : inputs'.preference.face = inputs.preference.face
  timing : inputs'.timing.face t.offset = inputs.timing.face 0
  evidence : ∀ path kind, (inputs'.evidence.find path kind).map (·.face t.offset) =
    (inputs.evidence.find path kind).map (·.face 0)
  now : t.Reads inputs.now inputs'.now

namespace EvaluationInputs.Twin

section
variable {t : Translation} {inputs inputs' : EvaluationInputs} (h : inputs.Twin t inputs')
include h

theorem established : inputs'.preference.established = inputs.preference.established :=
  (congrArg RoutingPreference.established h.preference :)

theorem preferredPath : inputs'.preference.preferredPath = inputs.preference.preferredPath :=
  (congrArg RoutingPreference.preferredPath h.preference :)

theorem previousPath : inputs'.preference.previousPath = inputs.preference.previousPath :=
  (congrArg RoutingPreference.previousPath h.preference :)

theorem lookupMetric : inputs'.lookupMetric = inputs.lookupMetric := by
  funext path requirement
  have hfind := h.evidence path requirement.kind
  unfold EvaluationInputs.lookupMetric
  cases hfound : inputs.evidence.find path requirement.kind with
  | none =>
    rw [hfound] at hfind
    rw [Option.map_eq_none_iff.1 hfind]
    rfl
  | some resolved =>
    rw [hfound] at hfind
    obtain ⟨resolved', hfound', hface⟩ := Option.map_eq_some_iff.1 hfind
    have haggregate : resolved'.aggregate.face t.offset = resolved.aggregate.face 0 :=
      congrArg Prod.snd hface
    have hquality : resolved'.quality = resolved.quality := congrArg (fun face => face.1.quality) hface
    have hvalue : resolved'.aggregate.value = resolved.aggregate.value :=
      congrArg (fun face => face.1.value) haggregate
    have hcount : resolved'.aggregate.sampleCount = resolved.aggregate.sampleCount :=
      congrArg (fun face => face.1.sampleCount) haggregate
    rw [hfound', orRefuse_some, orRefuse_some]
    simp only [bind, Except.bind, EvidenceAggregate.valid, EvidenceAggregate.age_face haggregate h.now,
      EvidenceAggregate.window_face haggregate, hquality, hvalue, hcount]

theorem evaluateCandidate : inputs'.evaluateCandidate = inputs.evaluateCandidate := by
  funext candidate
  unfold EvaluationInputs.evaluateCandidate evidenceGate objectiveMetrics
  rw [h.lookupMetric, h.semantics, h.established, h.preferredPath, h.previousPath]

theorem rank : inputs'.rank = inputs.rank := by
  unfold EvaluationInputs.rank
  rw [h.evaluateCandidate, h.candidates, h.semantics]

theorem currentBinding : inputs'.currentBinding = inputs.currentBinding := by
  unfold EvaluationInputs.currentBinding
  rw [h.established, h.candidates, h.preferredPath]

theorem emergencyReason : inputs'.emergencyReason = inputs.emergencyReason := by
  unfold EvaluationInputs.emergencyReason
  rw [h.semantics, h.currentBinding, h.established]

theorem establish : inputs'.establish = inputs.establish := by
  have hdefect : inputs'.entryDefect = inputs.entryDefect := by
    funext best rule
    unfold entryDefect
    rw [h.semantics, h.lookupMetric]
  funext ticket best
  unfold EvaluationInputs.establish
  rw [h.semantics, hdefect]

theorem currentEligible : inputs'.currentEligible = inputs.currentEligible := by
  funext ranking
  unfold EvaluationInputs.currentEligible
  rw [h.currentBinding, h.preferredPath]

theorem incumbentTicket : inputs'.incumbentTicket = inputs.incumbentTicket := by
  funext ticket
  unfold EvaluationInputs.incumbentTicket
  rw [h.currentBinding, h.preferredPath]

theorem reverse : inputs'.reverse = inputs.reverse := by
  funext best
  unfold EvaluationInputs.reverse
  rw [h.previousPath]

theorem holdDownGate : inputs'.holdDownGate = inputs.holdDownGate := by
  obtain ⟨hactive, hdeadline⟩ := TimingState.holdDown_face h.timing
  have hpenalty : inputs'.timing.dampeningPenalty = inputs.timing.dampeningPenalty :=
    congrArg TimingFace.penalty h.timing
  funext best ticket
  unfold EvaluationInputs.holdDownGate
  dsimp only
  rw [hactive, hpenalty, h.semantics, h.reverse]
  cases hon : inputs.timing.holdDownActive with
  | false => simp
  | true => rw [remaining_face (hdeadline hon) h.now, outstanding_face (hdeadline hon) h.now]

theorem cooldownGate : inputs'.cooldownGate = inputs.cooldownGate := by
  obtain ⟨hactive, hdeadline⟩ := TimingState.cooldown_face h.timing
  funext ticket
  unfold EvaluationInputs.cooldownGate
  rw [hactive]
  cases hon : inputs.timing.cooldownActive with
  | false => simp
  | true => simp only [elapsed_lt h.now (hdeadline hon)]

theorem churnGate : inputs'.churnGate = inputs.churnGate := by
  funext ticket
  unfold EvaluationInputs.churnGate
  dsimp only
  rw [h.semantics, TimingState.recentCommits_face h.timing h.now]

theorem ruleValues : inputs'.ruleValues = inputs.ruleValues := by
  funext ticket best kind missing what
  unfold EvaluationInputs.ruleValues
  rw [h.semantics, h.currentBinding, h.lookupMetric]

theorem thresholdGate : inputs'.thresholdGate = inputs.thresholdGate := by
  funext best ticket rule
  unfold EvaluationInputs.thresholdGate
  rw [h.ruleValues]

theorem improvementGate : inputs'.improvementGate = inputs.improvementGate := by
  funext best ticket rule
  unfold EvaluationInputs.improvementGate
  rw [h.ruleValues, h.reverse]

theorem ordinaryGates : inputs'.ordinaryGates = inputs.ordinaryGates := by
  funext best ticket
  unfold EvaluationInputs.ordinaryGates
  rw [h.holdDownGate, h.cooldownGate, h.thresholdGate, h.improvementGate, h.churnGate, h.semantics]

theorem proposeWeights : inputs'.proposeWeights = inputs.proposeWeights := by
  funext best
  unfold EvaluationInputs.proposeWeights
  rw [h.semantics, h.candidates]

theorem adapt : inputs'.adapt = inputs.adapt := by
  funext ticket best
  unfold EvaluationInputs.adapt
  rw [h.emergencyReason, h.currentEligible, h.incumbentTicket, h.ordinaryGates, h.proposeWeights]

end

end EvaluationInputs.Twin

end AdaptiveRouting
