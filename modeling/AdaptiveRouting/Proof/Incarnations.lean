import AdaptiveRouting.Proof.Currentness
import AdaptiveRouting.Proof.Series

/-!
# Incarnations of an evidence source

Generations are compared within a series, not within a source. A run in which they are those of the
sources (`Op.Coherent`: a new incarnation publishes to every series of its source, an older one only
where it is refused) has in every series samples of the newest incarnation (`EvidenceSeries.Current`),
so whatever an evaluation resolves is of the newest incarnation (`one_incarnation`).
-/

namespace AdaptiveRouting

open Guard Engine

/-! ## Batches -/

section
variable {s : State} {limits : Limits} {scope : AuthorityScope} {batch : BatchState}
  {p : EvidencePublication} {now : Ticks} {accepted : List (Ticks × EvidencePublication)}
  {a : Ticks × EvidencePublication}

/-- The series a publication of an accepted batch finds is not ahead of it. -/
theorem batch_found
    (h : (accepted.map (·.2)).foldlM (s.validatePublication limits scope) {} = .ok batch)
    {before after : List (Ticks × EvidencePublication)} (hsplit : accepted = before ++ a :: after)
    {series : EvidenceSeries}
    (hseries : (before.foldl (State.applyPublication limits) s).evidence[a.2.key]? = some series) :
    series.sourceGeneration.value ≤ a.2.sourceGeneration.value ∧
      (series.sourceGeneration.value = a.2.sourceGeneration.value → series.quality = a.2.quality) := by
  obtain ⟨viewed, next, hpredicts, hvalid⟩ := batch_predicts h hsplit
  exact hpredicts.found (State.validatePublication_ok hvalid) hseries

/-- The generation of a series with a publication appended is the greater one. -/
theorem append_ge (found : Option EvidenceSeries) :
    p.sourceGeneration.value ≤ (EvidenceSeries.append limits now p found).sourceGeneration.value ∧
      ∀ series, found = some series → series.sourceGeneration.value ≤
        (EvidenceSeries.append limits now p found).sourceGeneration.value := by
  cases found with
  | none => exact ⟨UInt64.le_refl _, by simp⟩
  | some series =>
    unfold EvidenceSeries.append
    by_cases hnew : series.sourceGeneration < p.sourceGeneration
    · simp only [hnew, if_true]
      exact ⟨UInt64.le_refl _, fun x hx => by cases hx; exact UInt64.le_of_lt hnew⟩
    · simp only [hnew, if_false]
      exact ⟨UInt64.not_lt.1 hnew, fun x hx => by cases hx; exact UInt64.le_refl _⟩

/-- A batch leaves no series behind what it published to it. -/
theorem applyPublications_reach (h : p ∈ accepted.map (·.2)) : ∃ series,
    (accepted.foldl (State.applyPublication limits) s).evidence[p.key]? = some series ∧
      p.sourceGeneration.value ≤ series.sourceGeneration.value := by
  obtain ⟨a, haccepted, rfl⟩ := List.mem_map.1 h
  obtain ⟨front, back, rfl⟩ := List.append_of_mem haccepted
  rw [List.foldl_append, List.foldl_cons, State.applyPublications_get]
  refine List.foldlRecOn (motive := fun found : Option EvidenceSeries => ∃ series,
      found = some series ∧ a.2.sourceGeneration.value ≤ series.sourceGeneration.value) _ _
    ⟨_, (State.applyPublication_local limits).self _ a, (append_ge _).1⟩
    fun found ⟨series, hfound, hle⟩ q _ => ?_
  exact ⟨_, rfl, UInt64.le_trans hle ((append_ge found).2 series hfound)⟩

/-- A batch leaves alone the series it does not publish to. -/
theorem applyPublications_aloof {key : EvidenceKey} (h : ∀ p ∈ accepted.map (·.2), p.key ≠ key) :
    (accepted.foldl (State.applyPublication limits) s).evidence[key]? = s.evidence[key]? := by
  have hnone : accepted.filter (fun a => a.2.key = key) = [] :=
    List.filter_eq_nil_iff.2 fun a ha => by simpa using h a.2 (List.mem_map_of_mem ha)
  rw [State.applyPublications_get, hnone]
  rfl

end

/-! ## The newest incarnation -/

/-- The newest generation of a source that was accepted in the run. -/
def Newest (limits : Limits) (calls : List (Runs.Call Engine Op Answer)) (source : EvidenceSourceId)
    (generation : EvidenceSourceGeneration) : Prop :=
  (∃ now p, PublishedIn limits calls now p ∧ p.source = source ∧ p.sourceGeneration = generation) ∧
    ∀ now p, PublishedIn limits calls now p → p.source = source →
      p.sourceGeneration.value ≤ generation.value

/-- A series of a key whose samples were published under its incarnation. -/
structure EvidenceSeries.Sourced (published : Ticks → EvidencePublication → Prop) (key : EvidenceKey)
    (series : EvidenceSeries) : Prop where
  identity : series.source = key.source ∧ series.path = key.path ∧ series.kind = key.kind
  origin : ∀ sample ∈ series.samples, ∃ now p, published now p ∧ p.key = key ∧
    p.sourceGeneration = series.sourceGeneration ∧ sample = p.sample now

/-- A series whose samples were published by the newest incarnation of its source. -/
structure EvidenceSeries.Current (limits : Limits) (calls : List (Runs.Call Engine Op Answer))
    (key : EvidenceKey) (series : EvidenceSeries) : Prop
    extends series.Sourced (PublishedIn limits calls) key where
  newest : series.samples ≠ [] → Newest limits calls key.source series.sourceGeneration

/-- A publication of an older incarnation than one accepted before it, in the run or in its batch. -/
def Outdated (limits : Limits) (calls : List (Runs.Call Engine Op Answer))
    (before : List EvidencePublication) (p : EvidencePublication) : Prop :=
  ∃ q, ((∃ now, PublishedIn limits calls now q) ∨ q ∈ before) ∧ q.source = p.source ∧
    p.sourceGeneration.value < q.sourceGeneration.value

/-- What is outdated is sent only to series that are ahead of it, and an accepted batch publishes its
incarnation to every series of its source that would be behind. -/
def Op.Coherent (limits : Limits) (calls : List (Runs.Call Engine Op Answer)) (s : State) : Op → Prop
  | .publishEvidence clock request =>
    (∀ before a after, acceptances clock request.publications = before ++ a :: after →
      Outdated limits calls (before.map (·.2)) a.2 →
      ∃ series, (before.foldl (State.applyPublication limits) s).evidence[a.2.key]? = some series ∧
        a.2.sourceGeneration.value < series.sourceGeneration.value) ∧
    ((s.publishChecks limits request).isOk = true →
      ∀ p ∈ request.publications, ∀ key : EvidenceKey, key.source = p.source →
        (∃ series, s.evidence[key]? = some series ∧ series.samples ≠ [] ∧
          series.sourceGeneration.value < p.sourceGeneration.value) ∨
        (∃ q ∈ request.publications, q.key = key) →
      ∃ q ∈ request.publications, q.key = key ∧ p.sourceGeneration.value ≤ q.sourceGeneration.value)
  | _ => True

section
variable {s : State} {limits : Limits} {calls : List (Runs.Call Engine Op Answer)} {now : Ticks}
  {clock : Nat → Ticks} {request : PublishEvidenceRequest} {fingerprint : Text}

/-- A coherent batch that is accepted has nothing outdated. -/
theorem Op.Coherent.not_outdated (h : (Op.publishEvidence clock request).Coherent limits calls s)
    (hchecks : s.publishChecks limits request = .ok fingerprint)
    {before after : List EvidencePublication} {p : EvidencePublication}
    (hsplit : request.publications = before ++ p :: after) : ¬ Outdated limits calls before p := by
  intro houtdated
  obtain ⟨-, -, registration, batch, -, hbatch⟩ := State.publishChecks_passed hchecks
  rw [← acceptances_map clock request.publications] at hbatch hsplit
  obtain ⟨front, back, hwhole, rfl, hback⟩ := List.map_eq_append_iff.1 hsplit
  obtain ⟨a, back, rfl, rfl, -⟩ := List.map_eq_cons_iff.1 hback
  obtain ⟨series, hseries, hahead⟩ := h.1 front a back hwhole houtdated
  exact UInt64.not_lt.2 (batch_found hbatch hwhole hseries).1 hahead

/-- An accepted publication joins the samples of its incarnation. -/
theorem EvidenceSeries.Sourced.append {published : Ticks → EvidencePublication → Prop}
    {p : EvidencePublication} (hp : published now p) {found : Option EvidenceSeries}
    (hfound : ∀ series, found = some series → series.Sourced published p.key ∧
      series.sourceGeneration.value ≤ p.sourceGeneration.value ∧
      (series.sourceGeneration.value = p.sourceGeneration.value → series.quality = p.quality)) :
    (EvidenceSeries.append limits now p found).Sourced published p.key := by
  have hgeneration : (EvidenceSeries.append limits now p found).sourceGeneration =
      p.sourceGeneration := Generation.ext (State.append_predicted
        (fun x hx => (hfound x hx).2.1) fun x hx => (hfound x hx).2.2).generation
  refine ⟨?_, fun sample hsample => ?_⟩
  · unfold EvidenceSeries.append
    cases found with
    | none => exact ⟨rfl, rfl, rfl⟩
    | some series =>
      dsimp only
      split <;> exact (hfound series rfl).1.identity
  · obtain ⟨base, hbase, hsamples⟩ := append_samples_eq limits now p found
    rw [hsamples] at hsample
    rcases List.mem_append.1 (List.mem_of_mem_drop hsample) with hsample | hsample
    · rcases hbase with rfl | ⟨series, hseries, rfl, hnew⟩
      · cases hsample
      · obtain ⟨hsourced, hbehind, -⟩ := hfound series hseries
        obtain ⟨earlier, q, hq, hkey, hsame, rfl⟩ := hsourced.origin sample hsample
        have heq : series.sourceGeneration = p.sourceGeneration :=
          Generation.ext (UInt64.le_antisymm hbehind (UInt64.not_lt.1 hnew))
        exact ⟨earlier, q, hq, hkey, hsame.trans (heq.trans hgeneration.symm), rfl⟩
    · cases List.mem_singleton.1 hsample
      exact ⟨now, p, hp, rfl, hgeneration.symm, rfl⟩

end

/-! ## Runs -/

section
variable {config : EngineConfig} {e₀ e : Engine} {calls : List (Runs.Call Engine Op Answer)}

theorem EvidenceSeries.Sourced.mono {published published' : Ticks → EvidencePublication → Prop}
    {key : EvidenceKey} {series : EvidenceSeries} (h : series.Sourced published key)
    (himp : ∀ now p, published now p → published' now p) : series.Sourced published' key :=
  ⟨h.identity, fun sample hsample => by
    obtain ⟨now, p, hp, hrest⟩ := h.origin sample hsample
    exact ⟨now, p, himp now p hp, hrest⟩⟩

/-- The incarnation of a series with samples was accepted. -/
theorem EvidenceSeries.Sourced.newest {limits : Limits} {key : EvidenceKey} {series : EvidenceSeries}
    (h : series.Sourced (PublishedIn limits calls) key) (hsamples : series.samples ≠ [])
    (hle : ∀ now p, PublishedIn limits calls now p → p.source = key.source →
      p.sourceGeneration.value ≤ series.sourceGeneration.value) :
    Newest limits calls key.source series.sourceGeneration := by
  obtain ⟨sample, hsample⟩ := List.exists_mem_of_ne_nil _ hsamples
  obtain ⟨now, p, hp, rfl, hgeneration, -⟩ := h.origin sample hsample
  exact ⟨⟨now, p, hp, rfl, hgeneration⟩, hle⟩

/-- What was accepted by the end of one more call was accepted before it, or is of its batch. -/
theorem PublishedIn.cases {limits : Limits} {call : Runs.Call Engine Op Answer} {now : Ticks}
    {p : EvidencePublication} (h : PublishedIn limits (calls ++ [call]) now p) :
    PublishedIn limits calls now p ∨ ∃ clock request fingerprint,
      call.label = .publishEvidence clock request ∧
        call.pre.state.publishChecks limits request = .ok fingerprint ∧
          (now, p) ∈ acceptances clock request.publications := by
  obtain ⟨made, hmem, hmade⟩ := h
  rcases List.mem_append.1 hmem with hmem | hmem
  · exact .inl ⟨made, hmem, hmade⟩
  · cases List.mem_singleton.1 hmem
    exact .inr hmade

/-- In a coherent run every series is of the newest incarnation of its source. -/
theorem series_current
    (h : Runs.Trace (Engine.step config)
      (fun calls e op => op.Coherent config.limits calls e.state) e₀ calls e)
    (hempty : e₀.state.evidence = {}) (key : EvidenceKey) (series : EvidenceSeries)
    (hseries : e.state.evidence[key]? = some series) : series.Current config.limits calls key := by
  refine h.inv_under (I := fun calls e => ∀ (key : EvidenceKey) (series : EvidenceSeries),
    e.state.evidence[key]? = some series → series.Current config.limits calls key)
    (fun key series hseries => by simp [hempty] at hseries)
    (fun calls e op e' answer hcoherent hs hstep key series hseries => ?_) key series hseries
  have hlater : ∀ now p, PublishedIn config.limits calls now p →
      PublishedIn config.limits (calls ++ [⟨e, op, answer, e'⟩]) now p :=
    fun now p hp => hp.mono (List.subset_append_left ..)
  cases step_series hstep with
  | cleared empty => simp [empty] at hseries
  | kept same idle =>
    rw [same] at hseries
    have hsourced := (hs key series hseries).toSourced.mono hlater
    refine ⟨hsourced, fun hsamples => hsourced.newest hsamples fun now p hp hsource => ?_⟩
    rcases hp.cases with hp | ⟨clock, request, fingerprint, hlabel, hchecks, -⟩
    · exact ((hs key series hseries).newest hsamples).2 now p hp hsource
    · exact absurd hchecks (idle clock request fingerprint hlabel)
  | @published clock request fingerprint publishes checks appended =>
    subst publishes
    rw [appended] at hseries
    obtain ⟨-, -, registration, batch, -, hbatch⟩ := State.publishChecks_passed checks
    rw [← acceptances_map clock request.publications] at hbatch
    have hnow (a) (ha : a ∈ acceptances clock request.publications) : PublishedIn config.limits
        (calls ++ [⟨e, .publishEvidence clock request, answer, e'⟩]) a.1 a.2 :=
      ⟨_, List.mem_append_right _ List.mem_cons_self, clock, request, fingerprint, rfl, checks, ha⟩
    have hsourced := applyPublications_inv
      (fun key series hstored => (hs key series hstored).toSourced.mono hlater)
      (fun before a after hsplit ih => .append (hnow a (by simp [hsplit])) fun found hfound =>
        ⟨ih found hfound, batch_found hbatch hsplit hfound⟩) key series hseries
    refine ⟨hsourced, fun hsamples => hsourced.newest hsamples fun earlier q hq hsource => ?_⟩
    have hrises := hcoherent.2 (by rw [checks]; rfl)
    by_cases htouched : ∃ p ∈ request.publications, p.key = key
    · obtain ⟨p, hmem, rfl⟩ := htouched
      have hreach {p : EvidencePublication} (h : p ∈ request.publications) :=
        @applyPublications_reach e.state config.limits p (acceptances clock request.publications)
          (by rwa [acceptances_map])
      obtain ⟨reached, hreached, hle⟩ := hreach hmem
      cases hseries.symm.trans hreached
      rcases hq.cases with hq | ⟨_, asked, _, hlabel, -, hq⟩
      · obtain ⟨before, after, hsplit⟩ := List.append_of_mem hmem
        have hnew := hcoherent.not_outdated checks hsplit
        refine UInt64.le_trans (UInt64.not_lt.1 fun hlt => hnew ?_) hle
        exact ⟨q, .inl ⟨earlier, hq⟩, hsource, hlt⟩
      · cases hlabel
        obtain ⟨r, hr, hkey, hahead⟩ :=
          hrises q (acceptances_mem hq) p.key hsource.symm (.inr ⟨p, hmem, rfl⟩)
        obtain ⟨reached, hreached, hler⟩ := hreach hr
        rw [hkey] at hreached
        cases hseries.symm.trans hreached
        exact UInt64.le_trans hahead hler
    · have haloof : ∀ p ∈ request.publications, p.key ≠ key := fun p hp hkey => htouched ⟨p, hp, hkey⟩
      rw [applyPublications_aloof (by rwa [acceptances_map])] at hseries
      rcases hq.cases with hq | ⟨_, asked, _, hlabel, -, hq⟩
      · exact ((hs key series hseries).newest hsamples).2 earlier q hq hsource
      · cases hlabel
        refine UInt64.not_lt.1 fun hlt => htouched ?_
        obtain ⟨r, hr, hkey, -⟩ := hrises q (acceptances_mem hq) key hsource.symm
          (.inl ⟨series, hseries, hsamples, hlt⟩)
        exact ⟨r, hr, hkey⟩

/-- In a coherent run the retained samples, the aggregates taken of them and what an evaluation
captures are of the newest incarnation of their source, and an outdated publication is refused. -/
theorem one_incarnation
    (h : Runs.Trace (Engine.step config)
      (fun calls e op => op.Coherent config.limits calls e.state) e₀ calls e)
    (hempty : e₀.state.evidence = {}) :
    (∀ (key : EvidenceKey) (series : EvidenceSeries), e.state.evidence[key]? = some series →
      series.Current config.limits calls key) ∧
    (∀ path requirement aggregate series,
      e.state.aggregateFor path requirement = some (aggregate, series) →
        Newest config.limits calls series.source series.sourceGeneration ∧
        ∀ sample ∈ series.samples, ∃ now p, PublishedIn config.limits calls now p ∧
          p.source = series.source ∧ p.path = path ∧
          p.sourceGeneration = series.sourceGeneration ∧ sample = p.sample now) ∧
    (∀ now id record, ∀ resolved ∈ (e.state.captureEvidence now id record).values,
      Newest config.limits calls resolved.source resolved.sourceGeneration) ∧
    ∀ clock request before p after,
      (Op.publishEvidence clock request).Coherent config.limits calls e.state →
      request.publications = before ++ p :: after → Outdated config.limits calls before p →
        (e.state.publishEvidence config.limits clock request).1 = e.state ∧
          (e.state.publishEvidence config.limits clock request).2.outcome ≠ .policyUpdated := by
  have hcurrent := series_current h hempty
  have haggregate : ∀ path requirement aggregate series,
      e.state.aggregateFor path requirement = some (aggregate, series) →
        Newest config.limits calls series.source series.sourceGeneration ∧
        ∀ sample ∈ series.samples, ∃ now p, PublishedIn config.limits calls now p ∧
          p.source = series.source ∧ p.path = path ∧
          p.sourceGeneration = series.sourceGeneration ∧ sample = p.sample now := by
    intro path requirement aggregate series haggregate
    obtain ⟨hsamples, key, hseries, rfl, -⟩ :=
      State.chooseSeries_stored (State.aggregateFor_chosen haggregate).1
    have hseries := hcurrent key series hseries
    rw [hseries.identity.1]
    refine ⟨hseries.newest hsamples, fun sample hsample => ?_⟩
    obtain ⟨now, p, hp, rfl, hrest⟩ := hseries.origin sample hsample
    exact ⟨now, p, hp, rfl, rfl, hrest⟩
  refine ⟨hcurrent, haggregate, fun now id record resolved hresolved => ?_, ?_⟩
  · obtain ⟨requirement, -, series, hseries, -, -, hsource, hgeneration⟩ :=
      State.captured_aggregate hresolved
    rw [hsource, hgeneration]
    exact (haggregate _ _ _ _ hseries).1
  · intro clock request before p after hcoherent hsplit houtdated
    cases hchecks : e.state.publishChecks config.limits request with
    | error answer =>
      rw [State.publishEvidence_refused hchecks]
      exact ⟨rfl, e.state.publishChecks_refuses config.limits request answer hchecks⟩
    | ok fingerprint => exact absurd houtdated (hcoherent.not_outdated hchecks hsplit)

end

/-! ## Deployments -/

/-- What an operation publishes. -/
def Op.publications : Op → List EvidencePublication
  | .publishEvidence _ request => request.publications
  | _ => []

theorem PublishedIn.mem {limits : Limits} {calls : List (Runs.Call Engine Op Answer)} {now : Ticks}
    {p : EvidencePublication} (h : PublishedIn limits calls now p) :
    ∃ call ∈ calls, p ∈ call.label.publications := by
  obtain ⟨call, hmem, clock, request, fingerprint, hlabel, -, hp⟩ := h
  exact ⟨call, hmem, by rw [hlabel]; exact acceptances_mem hp⟩

/-- A batch of one generation that is behind none before it and goes to every series there is. -/
theorem Op.Coherent.of_whole {limits : Limits} {calls : List (Runs.Call Engine Op Answer)} {s : State}
    {op : Op}
    (hone : ∀ p ∈ op.publications, ∀ q ∈ op.publications,
      p.sourceGeneration.value ≤ q.sourceGeneration.value)
    (hahead : ∀ call ∈ calls, ∀ q ∈ call.label.publications, ∀ p ∈ op.publications,
      q.sourceGeneration.value ≤ p.sourceGeneration.value)
    (hall : op.publications ≠ [] → ∀ key ∈ s.evidence.keys, ∃ q ∈ op.publications, q.key = key) :
    op.Coherent limits calls s := by
  unfold Coherent
  split
  · rename_i clock request
    refine ⟨fun before a after hsplit houtdated => ?_, fun _ p hp key _ hkey => ?_⟩
    · obtain ⟨q, hq, -, hlt⟩ := houtdated
      have hp : a.2 ∈ request.publications :=
        acceptances_mem (by rw [hsplit]; exact List.mem_append_right _ List.mem_cons_self)
      rcases hq with ⟨earlier, hq⟩ | hq
      · obtain ⟨call, hmem, hq⟩ := hq.mem
        exact absurd hlt (UInt64.not_lt.2 (hahead call hmem q hq a.2 hp))
      · obtain ⟨b, hb, rfl⟩ := List.mem_map.1 hq
        refine absurd hlt (UInt64.not_lt.2 (hone b.2 (@acceptances_mem clock request.publications b ?_) a.2 hp))
        rw [hsplit]
        exact List.mem_append_left _ hb
    · obtain ⟨q, hq, hkey⟩ : ∃ q ∈ request.publications, q.key = key := by
        rcases hkey with ⟨series, hseries, -⟩ | hkey
        · exact hall (List.ne_nil_of_mem hp) key
            (Std.ExtTreeMap.mem_keys.2 (Std.ExtTreeMap.mem_iff_isSome_getElem?.2 (by rw [hseries]; rfl)))
        · exact hkey
      exact ⟨q, hq, hkey, hone p hp q hq⟩
  · trivial

namespace Scenario

/-- A latency sample of an incarnation of the source. -/
def incarnate (path : PathId) (generation sequence : UInt64) : EvidencePublication :=
  { source := name "source", sourceGeneration := ⟨generation⟩, path, value := latency 100
    observationSequence := sequence }

def publishAll (publications : List EvidencePublication) (attempt : String) : Op :=
  .publishEvidence (fun _ => 2) { publications, context := context 1 attempt }

/-- Both paths have a sample of the first incarnation. -/
def incarnated : List Op :=
  [register, .createPolicy 0 (create 1), activate, notify (declare left) "left",
    notify (declare right) "right", publishAll [incarnate left 1 1, incarnate right 1 1] "first"]

/-- The second incarnation publishes to both. -/
def renewed : List Op :=
  incarnated ++ [publishAll [incarnate left 2 1, incarnate right 2 1] "second"]

/-- The second incarnation publishes to the left one only. -/
def staggered : List Op := incarnated ++ [publishAll [incarnate left 2 1] "second"]

/-- Then the first one publishes to the right one. -/
def outdated : Op := publishAll [incarnate right 1 2] "behind"

def rightLatency : EvidenceKey := { source := name "source", path := right, kind := .pathLatency }

/-- The call publishes an incarnation of the source, and is accepted. -/
def acceptsIncarnation (generation : UInt64) (call : Runs.Call Engine Op Answer) : Bool :=
  match call.label with
  | .publishEvidence clock request =>
    (call.pre.state.publishChecks config.limits request).isOk &&
      (acceptances clock request.publications).any fun a => a.1 == 2 &&
        (a.2.source == name "source" && a.2.sourceGeneration == ⟨generation⟩)
  | _ => false

theorem published_of_accepts {calls : List (Runs.Call Engine Op Answer)} {generation : UInt64}
    (h : calls.any (acceptsIncarnation generation) = true) : ∃ q,
      PublishedIn config.limits calls 2 q ∧ q.source = name "source" ∧
        q.sourceGeneration = ⟨generation⟩ := by
  obtain ⟨call, hmem, h⟩ := List.any_eq_true.1 h
  unfold acceptsIncarnation at h
  split at h
  · rename_i clock request hlabel
    simp only [Bool.and_eq_true, beq_iff_eq, List.any_eq_true] at h
    obtain ⟨hchecks, ⟨_, q⟩, hq, rfl, hsource, hgeneration⟩ := h
    cases hfingerprint : call.pre.state.publishChecks config.limits request with
    | error answer =>
      rw [hfingerprint] at hchecks
      cases hchecks
    | ok fingerprint =>
      exact ⟨q, ⟨call, hmem, clock, request, fingerprint, hlabel, hfingerprint, hq⟩, hsource,
        hgeneration⟩
  · cases h

end Scenario

open Scenario in
/-- The second incarnation takes the place of the first one everywhere. -/
theorem renewed_everywhere : ∃ series, (after renewed).state.evidence[rightLatency]? = some series ∧
    series.sourceGeneration = ⟨2⟩ ∧
    series.Current config.limits (callsTo renewed) rightLatency := by
  obtain ⟨series, hseries, hgeneration⟩ : ∃ series,
      (after renewed).state.evidence[rightLatency]? = some series ∧
        (series.sourceGeneration == ⟨2⟩) = true :=
    (Option.any_eq_true _ _).1 (by decide +kernel)
  have hahead : (callsTo renewed).Pairwise fun earlier call => ∀ q ∈ earlier.label.publications,
      ∀ p ∈ call.label.publications, q.sourceGeneration.value ≤ p.sourceGeneration.value := by
    decide +kernel
  have hwhole : ∀ call ∈ callsTo renewed, (∀ p ∈ call.label.publications,
      ∀ q ∈ call.label.publications, p.sourceGeneration.value ≤ q.sourceGeneration.value) ∧
      (call.label.publications ≠ [] → ∀ key ∈ call.pre.state.evidence.keys,
        ∃ q ∈ call.label.publications, q.key = key) := by
    decide +kernel
  have htrace : Runs.Trace (Engine.step config)
      (fun calls e op => op.Coherent config.limits calls e.state) engine (callsTo renewed)
      (after renewed) := by
    refine Runs.Trace.callsOf .start (runAll_after (by decide +kernel : returns renewed = true))
      fun front call back heq => ?_
    change callsTo renewed = _ at heq
    rw [heq] at hahead hwhole
    obtain ⟨hone, hall⟩ := hwhole call (List.mem_append_right _ List.mem_cons_self)
    refine .of_whole hone (fun earlier hmem => ?_) hall
    exact (List.pairwise_append.1 hahead).2.2 earlier hmem call List.mem_cons_self
  exact ⟨series, hseries, beq_iff_eq.1 hgeneration,
    (one_incarnation htrace rfl).1 rightLatency series hseries⟩

open Scenario in
/-- An evaluation resolves a sample of the first incarnation after the second one was accepted, and
another one of the first is accepted. -/
theorem outdated_accepted : Engine.Reachable config (after staggered) ∧
    (∃ record resolved, (after staggered).state.policies[policy]? = some record ∧
      resolved ∈ ((after staggered).state.captureEvidence 3 default record).values ∧
      resolved.source = name "source" ∧ resolved.sourceGeneration = ⟨1⟩) ∧
    (∃ q, PublishedIn config.limits (callsTo staggered) 2 q ∧ q.source = name "source" ∧
      q.sourceGeneration = ⟨2⟩) ∧
    ∃ result, (after staggered).step config outdated =
      some (after (staggered ++ [outdated]), .result result) ∧ result.outcome = .policyUpdated := by
  obtain ⟨record, hrecord, hresolved⟩ : ∃ record,
      (after staggered).state.policies[policy]? = some record ∧
        (((after staggered).state.captureEvidence 3 default record).values.any fun resolved =>
          resolved.source == name "source" && resolved.sourceGeneration == ⟨1⟩) = true :=
    (Option.any_eq_true _ _).1 (by decide +kernel)
  obtain ⟨resolved, hmem, hresolved⟩ := List.any_eq_true.1 hresolved
  simp only [Bool.and_eq_true, beq_iff_eq] at hresolved
  exact ⟨reachable_after (by decide +kernel), ⟨record, resolved, hrecord, hmem, hresolved⟩,
    published_of_accepts (by decide +kernel), step_result (by decide +kernel) (by decide +kernel)⟩

end AdaptiveRouting
