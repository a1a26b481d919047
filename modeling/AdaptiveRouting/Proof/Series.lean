import AdaptiveRouting.Proof.Churn
import AdaptiveRouting.Proof.Publication
import AdaptiveRouting.Proof.Retained

/-!
# Evidence series

What an accepted batch appends to a series is ahead of what the series retains (`Follows`): of a newer
incarnation, or of the same one with a higher sequence. The exception is a series whose last sequence
is 0, which takes another 0 (`RepeatsZero`). In a run without that exception every series has the
samples of one incarnation in order (`EvidenceSeries.InOrder`, `evidence_in_order`).
-/

namespace AdaptiveRouting

open Guard Engine

/-! ## What a publication follows -/

/-- A publication is ahead of a series. -/
def Follows (p : EvidencePublication) (series : EvidenceSeries) : Prop :=
  series.sourceGeneration.value < p.sourceGeneration.value ∨
    series.sourceGeneration = p.sourceGeneration ∧ series.quality = p.quality ∧
      ∀ last, series.samples.getLast? = some last →
        last.observationSequence < p.observationSequence

/-- A publication repeats the sequence 0 of its series. -/
def RepeatsZero (s : State) (p : EvidencePublication) : Prop :=
  ∃ series last, s.evidence[p.key]? = some series ∧
    series.sourceGeneration = p.sourceGeneration ∧ series.samples.getLast? = some last ∧
    last.observationSequence = 0 ∧ p.observationSequence = 0

section
variable {s s' : State} {limits : Limits} {scope : AuthorityScope} {batch batch' : BatchState}
  {p : EvidencePublication} {now : Ticks}

/-- The sequence a validated publication was compared with: the last one of the batch in its
incarnation, or else the last one stored. -/
theorem validatePublication_sequence
    (h : s.validatePublication limits scope batch p = .ok batch') :
    (∀ view, batch[p.key]? = some view → view.sourceGeneration = p.sourceGeneration.value →
      view.lastSequence = 0 ∨ view.lastSequence < p.observationSequence) ∧
    (batch[p.key]? = none → ∀ series last, s.evidence[p.key]? = some series →
      series.sourceGeneration = p.sourceGeneration → series.samples.getLast? = some last →
      last.observationSequence = 0 ∨ last.observationSequence < p.observationSequence) := by
  unfold State.validatePublication at h
  iterate 5 obtain ⟨-, h⟩ := seq_ok h
  obtain ⟨hsequence, -⟩ := seq_ok h
  generalize s.evidence[p.key]? = stored at hsequence ⊢
  generalize batch[p.key]? = seen at hsequence ⊢
  generalize heffective : max ((stored.map (·.sourceGeneration.value)).getD 0)
    ((seen.map (·.sourceGeneration)).getD 0) = effective at hsequence
  -- at the effective generation the publication belongs to the incarnation that is there
  have hsame : p.sourceGeneration.value ≤ effective →
      (effective != 0 && decide (p.sourceGeneration.value > effective)) = false := fun hge => by
    rw [decide_eq_false (UInt64.not_lt.2 hge), Bool.and_false]
  refine ⟨fun view hview heq => ?_, fun hnone series last hseries heq hlast => ?_⟩
  · subst hview
    have hge : p.sourceGeneration.value ≤ effective := by
      rw [← heffective, ← heq]
      exact (State.max_ge _ _).2
    rw [hsame hge, if_neg (by simp)] at hsequence
    simpa [Bool.and_eq_false_iff, or_iff_not_imp_left] using hsequence
  · subst hnone hseries
    have hge : p.sourceGeneration.value ≤ effective := by
      rw [← heffective, ← heq]
      exact (State.max_ge _ _).1
    rw [hsame hge, if_neg (by simp)] at hsequence
    simpa [hlast, or_iff_not_imp_left] using hsequence

/-- A validated publication that repeats no 0 is ahead of the series it finds. -/
theorem predicts_follows (hcapacity : limits.maxEvidenceSamplesPerSeries ≠ 0)
    (hp : State.Predicts limits s batch s')
    (h : s.validatePublication limits scope batch p = .ok batch') (hzero : ¬ RepeatsZero s' p)
    {series : EvidenceSeries} (hseries : s'.evidence[p.key]? = some series) : Follows p series := by
  obtain ⟨hle, hquality⟩ := hp.found (State.validatePublication_ok h) hseries
  obtain ⟨hseen, hstored⟩ := validatePublication_sequence h
  rcases UInt64.lt_or_eq_of_le hle with hlt | heq
  · exact .inl hlt
  have hgeneration : series.sourceGeneration = p.sourceGeneration := Generation.ext heq
  refine .inr ⟨hgeneration, hquality heq, fun last hlast => ?_⟩
  have hahead : last.observationSequence = 0 ∨
      last.observationSequence < p.observationSequence := by
    cases hview : batch[p.key]? with
    | none =>
      rw [hp.untouched p.key hview] at hseries
      exact hstored hview series last hseries hgeneration hlast
    | some view =>
      obtain ⟨found, hfound, hpredicted⟩ := hp.touched p.key view hview
      cases hseries.symm.trans hfound
      have hsequence := hpredicted.sequence hcapacity
      rw [hlast] at hsequence
      have hsame : last.observationSequence = view.lastSequence := Option.some.inj hsequence
      rw [hsame]
      exact hseen view hview (hpredicted.generation.symm.trans heq)
  rcases hahead with hfirst | hlt
  · rw [hfirst]
    refine UInt64.pos_iff_ne_zero.2 fun hrepeats => ?_
    exact hzero ⟨series, last, hseries, hgeneration, hlast, hfirst, hrepeats⟩
  · exact hlt

/-- A publication of an accepted batch was validated against a view that predicts what the ones
before it leave. -/
theorem batch_predicts {accepted before after : List (Ticks × EvidencePublication)}
    {a : Ticks × EvidencePublication}
    (h : (accepted.map (·.2)).foldlM (s.validatePublication limits scope) {} = .ok batch)
    (hsplit : accepted = before ++ a :: after) : ∃ viewed next,
      State.Predicts limits s viewed (before.foldl (State.applyPublication limits) s) ∧
        s.validatePublication limits scope viewed a.2 = .ok next := by
  rw [hsplit, List.map_append, List.foldlM_append] at h
  obtain ⟨viewed, hbefore, h⟩ := bind_ok h
  rw [List.map_cons, List.foldlM_cons] at h
  obtain ⟨next, hvalid, -⟩ := bind_ok h
  exact ⟨viewed, next, State.predicts_batch (State.Predicts.start limits s) hbefore, hvalid⟩

/-- Every publication of an accepted batch that repeats no 0 is ahead of the series it finds. -/
theorem batch_follows (hcapacity : limits.maxEvidenceSamplesPerSeries ≠ 0)
    {accepted before after : List (Ticks × EvidencePublication)} {a : Ticks × EvidencePublication}
    (h : (accepted.map (·.2)).foldlM (s.validatePublication limits scope) {} = .ok batch)
    (hsplit : accepted = before ++ a :: after)
    (hzero : ¬ RepeatsZero (before.foldl (State.applyPublication limits) s) a.2)
    {series : EvidenceSeries}
    (hseries : (before.foldl (State.applyPublication limits) s).evidence[a.2.key]? = some series) :
    Follows a.2 series := by
  obtain ⟨viewed, next, hpredicts, hvalid⟩ := batch_predicts h hsplit
  exact predicts_follows hcapacity hpredicts hvalid hzero hseries

/-- What every publication of a batch keeps of the series it is appended to, the batch keeps of every
series. -/
theorem applyPublications_inv {P : EvidenceKey → EvidenceSeries → Prop}
    {accepted : List (Ticks × EvidencePublication)}
    (hstart : ∀ (key : EvidenceKey) series, s.evidence[key]? = some series → P key series)
    (hstep : ∀ before a after, accepted = before ++ a :: after →
      (∀ series, (before.foldl (State.applyPublication limits) s).evidence[a.2.key]? = some series →
        P a.2.key series) →
      P a.2.key (EvidenceSeries.append limits a.1 a.2
        (before.foldl (State.applyPublication limits) s).evidence[a.2.key]?))
    (key : EvidenceKey) (series : EvidenceSeries)
    (h : (accepted.foldl (State.applyPublication limits) s).evidence[key]? = some series) :
    P key series := by
  induction accepted using List.reverseRecOn generalizing key series with
  | nil => exact hstart key series h
  | append_singleton before a ih =>
    have hbefore := ih fun front q back hfront => hstep front q (back ++ [a]) (by simp [hfront])
    rw [List.foldl_append, List.foldl_cons, List.foldl_nil, State.applyPublication_evidence,
      Std.ExtTreeMap.getElem?_insert] at h
    by_cases hkey : a.2.key = key
    · subst hkey
      rw [if_pos (by simp)] at h
      cases h
      exact hstep before a [] rfl fun series hseries => hbefore _ _ hseries
    · rw [if_neg fun hc => hkey (Std.LawfulEqCmp.eq_of_compare hc)] at h
      exact hbefore key series h

end

/-! ## Series in order -/

/-- The sample a publication leaves in its series. -/
def EvidencePublication.sample (p : EvidencePublication) (now : Ticks) : EvidenceSample :=
  { path := p.path, value := p.value, acceptedAt := now
    observationSequence := p.observationSequence }

/-- A series that has, in the order of their sequences, the latest samples published for its key under
its incarnation and quality. -/
structure EvidenceSeries.InOrder (limits : Limits) (published : Ticks → EvidencePublication → Prop)
    (key : EvidenceKey) (series : EvidenceSeries) : Prop where
  identity : series.source = key.source ∧ series.path = key.path ∧ series.kind = key.kind
  nonempty : series.samples ≠ []
  bounded : series.samples.length ≤ limits.maxEvidenceSamplesPerSeries.toNat
  increasing : series.samples.Pairwise fun a b => a.observationSequence < b.observationSequence
  origin : ∀ sample ∈ series.samples, ∃ now p, published now p ∧ p.key = key ∧
    p.sourceGeneration = series.sourceGeneration ∧ p.quality = series.quality ∧
    sample = p.sample now

/-- A list stays in order when what is added is ahead of its last element. -/
theorem pairwise_snoc {α : Type} {f : α → UInt64} {xs : List α} {x : α}
    (h : xs.Pairwise fun a b => f a < f b) (hlast : ∀ last, xs.getLast? = some last → f last < f x) :
    (xs ++ [x]).Pairwise fun a b => f a < f b := by
  refine List.pairwise_append.2 ⟨h, List.pairwise_singleton .., fun a ha b hb => ?_⟩
  cases List.mem_singleton.1 hb
  rcases List.eq_nil_or_concat xs with rfl | ⟨rest, last, rfl⟩
  · cases ha
  · rw [List.concat_eq_append] at h ha hlast
    have hahead := hlast last (by simp)
    rcases List.mem_append.1 ha with ha | ha
    · exact UInt64.lt_trans ((List.pairwise_append.1 h).2.2 a ha last (by simp)) hahead
    · cases List.mem_singleton.1 ha
      exact hahead

section
variable {limits : Limits} {published : Ticks → EvidencePublication → Prop} {now : Ticks}
  {p : EvidencePublication}

/-- The series a publication is appended to: its own incarnation so far. -/
theorem EvidenceSeries.InOrder.snoc (hcapacity : limits.maxEvidenceSamplesPerSeries ≠ 0)
    (hp : published now p) {base : EvidenceSeries} {total : UInt64}
    (hidentity : base.source = p.source ∧ base.path = p.path ∧ base.kind = p.value.kind)
    (hgeneration : base.sourceGeneration = p.sourceGeneration) (hquality : base.quality = p.quality)
    (hincreasing : base.samples.Pairwise fun a b => a.observationSequence < b.observationSequence)
    (hlast : ∀ last, base.samples.getLast? = some last →
      last.observationSequence < p.observationSequence)
    (horigin : ∀ sample ∈ base.samples, ∃ now q, published now q ∧ q.key = p.key ∧
      q.sourceGeneration = base.sourceGeneration ∧ q.quality = base.quality ∧
      sample = q.sample now) :
    ({ base with
        samples := keepLast limits.maxEvidenceSamplesPerSeries (base.samples ++ [p.sample now])
        totalPublished := total } : EvidenceSeries).InOrder limits published p.key where
  identity := hidentity
  nonempty := fun (hempty : keepLast _ (base.samples ++ [p.sample now]) = []) => by
    have hkept := keepLast_getLast hcapacity base.samples (p.sample now)
    rw [hempty] at hkept
    cases hkept
  bounded := keepLast_length ..
  increasing := (pairwise_snoc hincreasing hlast).sublist (List.drop_sublist ..)
  origin := fun sample hsample => by
    rcases List.mem_append.1 (List.mem_of_mem_drop hsample) with hsample | hsample
    · exact horigin sample hsample
    · cases List.mem_singleton.1 hsample
      exact ⟨now, p, hp, rfl, hgeneration.symm, hquality.symm, rfl⟩

theorem EvidenceSeries.InOrder.append (hcapacity : limits.maxEvidenceSamplesPerSeries ≠ 0)
    (hp : published now p) {found : Option EvidenceSeries}
    (hfound : ∀ series, found = some series →
      series.InOrder limits published p.key ∧ Follows p series) :
    (EvidenceSeries.append limits now p found).InOrder limits published p.key := by
  cases found with
  | none =>
    exact .snoc hcapacity hp ⟨rfl, rfl, rfl⟩ rfl rfl .nil (by simp) (by simp)
  | some series =>
    obtain ⟨hseries, hfollows⟩ := hfound series rfl
    unfold EvidenceSeries.append
    by_cases hnew : series.sourceGeneration < p.sourceGeneration
    · simp only [hnew, if_true]
      exact @snoc limits published now p hcapacity hp
        { series with samples := [], sourceGeneration := p.sourceGeneration, quality := p.quality } _
        hseries.identity rfl rfl .nil (by simp) (by simp)
    · simp only [hnew, if_false]
      rcases hfollows with hlt | ⟨hgeneration, hquality, hlast⟩
      · exact absurd hlt hnew
      · exact .snoc hcapacity hp hseries.identity hgeneration hquality hseries.increasing hlast
          hseries.origin

end

/-! ## Steps -/

/-- A publication of a batch that was accepted in the run, and the instant it was. -/
def PublishedIn (limits : Limits) (calls : List (Runs.Call Engine Op Answer)) (now : Ticks)
    (p : EvidencePublication) : Prop :=
  ∃ call ∈ calls, ∃ clock request fingerprint, call.label = .publishEvidence clock request ∧
    call.pre.state.publishChecks limits request = .ok fingerprint ∧
    (now, p) ∈ acceptances clock request.publications

/-- A batch that is accepted repeats no 0. -/
def Op.Advancing (limits : Limits) (s : State) : Op → Prop
  | .publishEvidence clock request => (s.publishChecks limits request).isOk = true →
      ∀ before a after, acceptances clock request.publications = before ++ a :: after →
        ¬ RepeatsZero (before.foldl (State.applyPublication limits) s) a.2
  | _ => True

/-- The evidence an operation leaves. -/
inductive EvidenceEffect (limits : Limits) (s : State) (op : Op) (s' : State) : Prop
  | kept (same : s'.evidence = s.evidence)
      (idle : ∀ clock request fingerprint, op = .publishEvidence clock request →
        s.publishChecks limits request ≠ .ok fingerprint)
  | published {clock : Nat → Ticks} {request : PublishEvidenceRequest} {fingerprint : Text}
      (publishes : op = .publishEvidence clock request)
      (checks : s.publishChecks limits request = .ok fingerprint)
      (appended : s'.evidence = ((acceptances clock request.publications).foldl
        (State.applyPublication limits) s).evidence)
  | cleared (empty : s'.evidence = {})

section
variable {config : EngineConfig} {e e' : Engine} {op : Op} {answer : Answer}

/-- An accepted batch is appended to the evidence. -/
theorem publishEvidence_appends {s : State} {limits : Limits} {clock : Nat → Ticks}
    {request : PublishEvidenceRequest} {fingerprint : Text}
    (h : s.publishChecks limits request = .ok fingerprint) :
    (s.publishEvidence limits clock request).1.evidence =
      ((acceptances clock request.publications).foldl (State.applyPublication limits) s).evidence := by
  unfold State.publishEvidence
  rw [h]
  dsimp only
  split
  · rfl
  · exact congrArg State.Shelves.evidence (State.shelves_aloof.recordAttempt ..)

theorem step_series (h : e.step config op = some (e', answer)) :
    EvidenceEffect config.limits e.state op e'.state := by
  by_cases hpublishes : ∃ clock request fingerprint, op = .publishEvidence clock request ∧
      e.state.publishChecks config.limits request = .ok fingerprint
  · obtain ⟨clock, request, fingerprint, rfl, hchecks⟩ := hpublishes
    cases h
    exact .published rfl hchecks (publishEvidence_appends hchecks)
  have hidle : ∀ clock request fingerprint, op = .publishEvidence clock request →
      e.state.publishChecks config.limits request ≠ .ok fingerprint :=
    fun clock request fingerprint hop hchecks =>
      hpublishes ⟨clock, request, fingerprint, hop, hchecks⟩
  have hsame {s' : State} (hshelves : s'.shelves = e.state.shelves) :
      EvidenceEffect config.limits e.state op s' := .kept (congrArg State.Shelves.evidence hshelves) hidle
  have hchange := step_state h
  generalize e'.state = s' at hchange
  cases hchange with
  | kept => exact .kept rfl hidle
  | attempted => exact hsame (State.shelves_aloof.recordAttempt ..)
  | created =>
    exact hsame ((State.shelves_aloof.recordAttempt ..).trans (State.shelves_aloof.addPolicy ..))
  | updated =>
    refine hsame ((State.shelves_aloof.recordAttempt ..).trans
      ((State.shelves_aloof.reindexPolicy ..).trans ?_))
    exact State.shelves_aloof.unindexPolicy ..
  | rewritten => exact hsame (State.shelves_aloof.putRecord ..)
  | revoked => exact hsame rfl
  | decided =>
    exact .kept (congrArg State.Shelves.evidence (State.shelves_aloof.recordAttempt ..)) hidle
  | registered => exact hsame (State.registerPublisher_shelves ..)
  | fenced => exact hsame (State.fencePublisher_shelves ..)
  | advanced => exact hsame (State.advanceEpoch_shelves ..)
  | notified => exact hsame (State.shelves_aloof.applyUpstream ..)
  | @published clock request publishes =>
    cases hchecks : e.state.publishChecks config.limits request with
    | error refusal =>
      exact .kept (by rw [State.publishEvidence_refused hchecks]) hidle
    | ok fingerprint => exact absurd hchecks (hidle clock request fingerprint publishes)
  | retained views => exact .kept (by subst views; rfl) hidle
  | @recovered now durable origin epoch authority =>
    obtain ⟨journal, -, hshelves⟩ := State.recoveredState_shelves config now durable epoch authority
    exact .cleared (congrArg State.Shelves.evidence hshelves)

end

/-! ## Publications that are behind -/

section
variable {s : State} {limits : Limits} {now : Ticks}

theorem append_last (hcapacity : limits.maxEvidenceSamplesPerSeries ≠ 0) (p : EvidencePublication)
    (found : Option EvidenceSeries) :
    (EvidenceSeries.append limits now p found).samples.getLast? = some (p.sample now) := by
  unfold EvidenceSeries.append
  exact keepLast_getLast hcapacity ..

/-- A publication joins the samples of its series, or starts over. -/
theorem append_samples_eq (limits : Limits) (now : Ticks) (p : EvidencePublication)
    (found : Option EvidenceSeries) :
    ∃ base, (base = [] ∨ ∃ series, found = some series ∧ base = series.samples ∧
        ¬ series.sourceGeneration < p.sourceGeneration) ∧
      (EvidenceSeries.append limits now p found).samples =
        keepLast limits.maxEvidenceSamplesPerSeries (base ++ [p.sample now]) := by
  cases found with
  | none => exact ⟨[], .inl rfl, rfl⟩
  | some series =>
    unfold EvidenceSeries.append
    by_cases hnew : series.sourceGeneration < p.sourceGeneration
    · exact ⟨[], .inl rfl, by simp [hnew, EvidencePublication.sample]⟩
    · exact ⟨series.samples, .inr ⟨series, rfl, rfl, hnew⟩,
        by simp [hnew, EvidencePublication.sample]⟩

theorem append_incarnation {p : EvidencePublication} {found : Option EvidenceSeries}
    (hfound : ∀ series, found = some series → Follows p series) :
    (EvidenceSeries.append limits now p found).sourceGeneration = p.sourceGeneration ∧
      (EvidenceSeries.append limits now p found).quality = p.quality := by
  cases found with
  | none => exact ⟨rfl, rfl⟩
  | some series =>
    unfold EvidenceSeries.append
    by_cases hnew : series.sourceGeneration < p.sourceGeneration
    · simp [hnew]
    · rcases hfound series rfl with hlt | ⟨hgeneration, hquality, -⟩
      · exact absurd hlt hnew
      · simp only [hnew, if_false]
        exact ⟨hgeneration, hquality⟩

/-- What is ahead of a series with a publication appended is ahead of the series. -/
theorem Follows.of_append (hcapacity : limits.maxEvidenceSamplesPerSeries ≠ 0)
    {p q : EvidencePublication} {series : EvidenceSeries} (hq : Follows q series)
    (hp : Follows p (EvidenceSeries.append limits now q (some series))) : Follows p series := by
  obtain ⟨hgeneration, hquality⟩ := @append_incarnation limits now q (some series) (by simpa using hq)
  have hlast := @append_last limits now hcapacity q (some series)
  unfold Follows at hp
  rw [hgeneration, hquality] at hp
  rcases hp with hlt | ⟨hsame, hp, hahead⟩
  · rcases hq with hbehind | ⟨heq, -, -⟩
    · exact .inl (UInt64.lt_trans hbehind hlt)
    · exact .inl (by rwa [heq])
  · rcases hq with hbehind | ⟨heq, hq, hlast'⟩
    · exact .inl (by rwa [← hsame])
    · exact .inr ⟨heq.trans hsame, hq.trans hp, fun last h =>
        UInt64.lt_trans (hlast' last h) (hahead _ hlast)⟩

theorem applyPublications_isSome {key : EvidenceKey} (h : (s.evidence[key]?).isSome = true)
    (accepted : List (Ticks × EvidencePublication)) :
    ((accepted.foldl (State.applyPublication limits) s).evidence[key]?).isSome = true := by
  rw [State.applyPublications_get]
  exact List.foldlRecOn (motive := fun found : Option EvidenceSeries => found.isSome = true) _ _ h
    fun _ _ _ _ => rfl

/-- Everything in an accepted batch is ahead of what was stored before the batch. -/
theorem accepted_follows (hcapacity : limits.maxEvidenceSamplesPerSeries ≠ 0) {clock : Nat → Ticks}
    {request : PublishEvidenceRequest} {fingerprint : Text}
    (hchecks : s.publishChecks limits request = .ok fingerprint)
    (hadvancing : (Op.publishEvidence clock request).Advancing limits s) {p : EvidencePublication}
    (hmem : p ∈ request.publications) {series : EvidenceSeries}
    (hseries : s.evidence[p.key]? = some series) : Follows p series := by
  obtain ⟨-, -, registration, batch, -, hbatch⟩ := State.publishChecks_passed hchecks
  have hzero := hadvancing (by rw [hchecks]; rfl)
  rw [← acceptances_map clock request.publications] at hbatch hmem
  obtain ⟨a, haccepted, rfl⟩ := List.mem_map.1 hmem
  obtain ⟨before, after, hsplit⟩ := List.append_of_mem haccepted
  have hfound : ((before.foldl (State.applyPublication limits) s).evidence[a.2.key]?).isSome = true :=
    applyPublications_isSome (by rw [hseries]; rfl) before
  obtain ⟨found, hfound⟩ := Option.isSome_iff_exists.1 hfound
  refine applyPublications_inv (s := s) (P := fun key found => ∀ series,
      s.evidence[key]? = some series → Follows a.2 found → Follows a.2 series)
    (fun key found hstart series hseries hp => ?_) (fun front q back hfront ih series hseries hp => ?_)
    a.2.key found hfound series hseries
    (batch_follows hcapacity hbatch hsplit (hzero before a after hsplit) hfound)
  · cases hstart.symm.trans hseries
    exact hp
  · have hsome := @applyPublications_isSome s limits _ (by rw [hseries]; rfl) front
    obtain ⟨earlier, hearlier⟩ := Option.isSome_iff_exists.1 hsome
    rw [hearlier] at hp
    have hwhole : acceptances clock request.publications = front ++ q :: (back ++ a :: after) := by
      rw [hsplit, hfront]
      simp
    have hq := batch_follows hcapacity hbatch hwhole (hzero front q _ hwhole) hearlier
    exact ih earlier hearlier series hseries (hq.of_append hcapacity hp)

/-- The samples of a series carry readings of the clock in the order it was read in. -/
theorem applyPublications_timed {past : List Ticks} (hs : ∀ (key : EvidenceKey) series,
      s.evidence[key]? = some series → (series.samples.map (·.acceptedAt)).Sublist past)
    (accepted : List (Ticks × EvidencePublication)) (key : EvidenceKey) (series : EvidenceSeries)
    (h : (accepted.foldl (State.applyPublication limits) s).evidence[key]? = some series) :
    (series.samples.map (·.acceptedAt)).Sublist (past ++ accepted.map (·.1)) := by
  induction accepted using List.reverseRecOn generalizing key series with
  | nil =>
    rw [List.map_nil, List.append_nil]
    exact hs key series h
  | append_singleton before a ih =>
    rw [List.map_append, ← List.append_assoc]
    rw [List.foldl_append, List.foldl_cons, List.foldl_nil, State.applyPublication_evidence,
      Std.ExtTreeMap.getElem?_insert] at h
    by_cases hkey : a.2.key = key
    · subst hkey
      rw [if_pos (by simp)] at h
      cases h
      obtain ⟨base, hbase, hsamples⟩ := append_samples_eq limits a.1 a.2
        (before.foldl (State.applyPublication limits) s).evidence[a.2.key]?
      have hfront : (base.map (·.acceptedAt)).Sublist (past ++ before.map (·.1)) := by
        rcases hbase with rfl | ⟨found, hfound, rfl, -⟩
        · exact List.nil_sublist _
        · exact ih _ found hfound
      rw [hsamples]
      refine ((List.drop_sublist ..).map _).trans ?_
      rw [List.map_append]
      exact hfront.append (.refl _)
    · rw [if_neg fun hc => hkey (Std.LawfulEqCmp.eq_of_compare hc)] at h
      exact (ih key series h).trans (List.sublist_append_left ..)

end

/-! ## Runs -/

/-- The readings of the clock that the publications of an accepted batch are stored with. -/
def storedAt (limits : Limits) (call : Runs.Call Engine Op Answer) : List Ticks :=
  match call.label with
  | .publishEvidence clock request =>
    if (call.pre.state.publishChecks limits request).isOk then
      (acceptances clock request.publications).map (·.1) else []
  | _ => []

/-- The clock did not go back from one stored publication to another. -/
def Unwinding (limits : Limits) (calls : List (Runs.Call Engine Op Answer)) : Prop :=
  (calls.flatMap (storedAt limits)).Pairwise (· ≤ ·)

section
variable {config : EngineConfig} {e₀ e : Engine} {calls : List (Runs.Call Engine Op Answer)}

theorem PublishedIn.mono {limits : Limits} {more : List (Runs.Call Engine Op Answer)} {now : Ticks}
    {p : EvidencePublication} (h : PublishedIn limits calls now p) (hsub : calls ⊆ more) :
    PublishedIn limits more now p := by
  obtain ⟨call, hmem, hcall⟩ := h
  exact ⟨call, hsub hmem, hcall⟩

theorem EvidenceSeries.InOrder.mono {limits : Limits}
    {published published' : Ticks → EvidencePublication → Prop} {key : EvidenceKey}
    {series : EvidenceSeries} (h : series.InOrder limits published key)
    (himp : ∀ now p, published now p → published' now p) : series.InOrder limits published' key :=
  { h with
    origin := fun sample hsample => by
      obtain ⟨now, p, hp, hrest⟩ := h.origin sample hsample
      exact ⟨now, p, himp now p hp, hrest⟩ }

/-- Every series of a run that repeats no 0 is in order. -/
theorem series_inOrder (hcapacity : config.limits.maxEvidenceSamplesPerSeries ≠ 0)
    (h : Runs.Trace (Engine.step config) (fun _ e op => op.Advancing config.limits e.state) e₀ calls e)
    (hempty : e₀.state.evidence = {}) (key : EvidenceKey) (series : EvidenceSeries)
    (hseries : e.state.evidence[key]? = some series) :
    series.InOrder config.limits (PublishedIn config.limits calls) key := by
  refine h.inv_under (I := fun calls e => ∀ (key : EvidenceKey) (series : EvidenceSeries),
    e.state.evidence[key]? = some series →
      series.InOrder config.limits (PublishedIn config.limits calls) key)
    (fun key series hseries => by simp [hempty] at hseries)
    (fun calls e op e' answer hadvancing hs hstep key series hseries => ?_) key series hseries
  have hlater {key : EvidenceKey} {series : EvidenceSeries} (h : e.state.evidence[key]? = some series) :
      series.InOrder config.limits (PublishedIn config.limits (calls ++ [⟨e, op, answer, e'⟩])) key :=
    (hs key series h).mono fun now p hp => hp.mono (List.subset_append_left ..)
  cases step_series hstep with
  | kept same =>
    rw [same] at hseries
    exact hlater hseries
  | cleared empty => simp [empty] at hseries
  | @published clock request fingerprint publishes checks appended =>
    subst publishes
    rw [appended] at hseries
    obtain ⟨-, -, registration, batch, -, hbatch⟩ := State.publishChecks_passed checks
    rw [← acceptances_map clock request.publications] at hbatch
    have hzero := hadvancing (by rw [checks]; rfl)
    refine applyPublications_inv (fun key series h => hlater h)
      (fun before a after hsplit ih => ?_) key series hseries
    refine .append hcapacity ⟨_, List.mem_append_right _ List.mem_cons_self, clock, request,
      fingerprint, rfl, checks, by simp [hsplit]⟩ fun found hfound => ⟨ih found hfound, ?_⟩
    exact batch_follows hcapacity hbatch hsplit (hzero before a after hsplit) hfound

/-- The samples of every series of a run carry readings that were taken in their order. -/
theorem series_stored {ok : List (Runs.Call Engine Op Answer) → Engine → Op → Prop}
    (h : Runs.Trace (Engine.step config) ok e₀ calls e) (hempty : e₀.state.evidence = {})
    (key : EvidenceKey) (series : EvidenceSeries) (hseries : e.state.evidence[key]? = some series) :
    (series.samples.map (·.acceptedAt)).Sublist (calls.flatMap (storedAt config.limits)) := by
  induction h generalizing key series with
  | start => simp [hempty] at hseries
  | @call calls e e' op answer htrace _ hstep ih =>
    rw [List.flatMap_append]
    cases step_series hstep with
    | kept same =>
      rw [same] at hseries
      exact (ih key series hseries).trans (List.sublist_append_left ..)
    | cleared empty => simp [empty] at hseries
    | @published clock request fingerprint publishes checks appended =>
      subst publishes
      rw [appended] at hseries
      have hstored : storedAt config.limits ⟨e, .publishEvidence clock request, answer, e'⟩ =
          (acceptances clock request.publications).map (·.1) := by
        unfold storedAt
        dsimp only
        rw [checks]
        rfl
      rw [List.flatMap_cons, List.flatMap_nil, List.append_nil, hstored]
      exact applyPublications_timed ih _ key series hseries

/-- In a run that repeats no 0 every series has the latest samples of one incarnation, path, metric
and quality in the order of their sequences, and of their acceptance if the clock does not go back; a
publication that is not ahead of its series is refused. -/
theorem evidence_in_order (hcapacity : config.limits.maxEvidenceSamplesPerSeries ≠ 0)
    (h : Runs.Trace (Engine.step config) (fun _ e op => op.Advancing config.limits e.state) e₀ calls e)
    (hempty : e₀.state.evidence = {}) :
    (∀ (key : EvidenceKey) (series : EvidenceSeries), e.state.evidence[key]? = some series →
      series.InOrder config.limits (PublishedIn config.limits calls) key ∧
        (Unwinding config.limits calls → series.samples.Pairwise fun a b => a.acceptedAt ≤ b.acceptedAt)) ∧
    ∀ clock request p series last,
      (Op.publishEvidence clock request).Advancing config.limits e.state →
      p ∈ request.publications → e.state.evidence[p.key]? = some series →
      series.sourceGeneration = p.sourceGeneration → series.samples.getLast? = some last →
      p.observationSequence ≤ last.observationSequence →
        (e.state.publishEvidence config.limits clock request).1 = e.state ∧
          (e.state.publishEvidence config.limits clock request).2.outcome ≠ .policyUpdated := by
  refine ⟨fun key series hseries => ⟨series_inOrder hcapacity h hempty key series hseries,
    fun hclock => List.pairwise_map.1
      (hclock.sublist (series_stored h hempty key series hseries))⟩, ?_⟩
  intro clock request p series last hadvancing hmem hseries hgeneration hlast hbehind
  cases hchecks : e.state.publishChecks config.limits request with
  | error answer =>
    rw [State.publishEvidence_refused hchecks]
    exact ⟨rfl, e.state.publishChecks_refuses config.limits request answer hchecks⟩
  | ok fingerprint =>
    rcases accepted_follows hcapacity hchecks hadvancing hmem hseries with hlt | ⟨-, -, hahead⟩
    · rw [hgeneration] at hlt
      exact absurd hlt (UInt64.lt_irrefl _)
    · exact absurd (hahead last hlast) (UInt64.not_lt.2 hbehind)

end

/-- The operation publishes no sequence 0. -/
def Op.numbered : Op → Bool
  | .publishEvidence _ request => request.publications.all fun p => p.observationSequence != 0
  | _ => true

theorem Op.Advancing.of_numbered {op : Op} (h : op.numbered = true) (limits : Limits) (s : State) :
    op.Advancing limits s := by
  unfold Advancing
  split
  · rename_i clock request
    intro _ before a after hsplit hrepeats
    obtain ⟨_, _, -, -, -, -, hzero⟩ := hrepeats
    have hp := List.all_eq_true.1 h a.2
      (acceptances_mem (by rw [hsplit]; exact List.mem_append_right _ List.mem_cons_self))
    simp [hzero] at hp
  · trivial

namespace Scenario

/-- A sample of the left path with a sequence. -/
def sampleLeft (sequence : UInt64) (attempt : String) : Op :=
  .publishEvidence (fun _ => 2) {
    publications := [{ source := name "source", sourceGeneration := ⟨1⟩, path := left,
                       value := latency 100, observationSequence := sequence }]
    context := context 1 attempt }

def sampled : List Op :=
  [register, .createPolicy 0 (create 1), activate, notify (declare left) "left",
    sampleLeft 1 "first", sampleLeft 2 "second"]

def zeroTwice : List Op :=
  [register, .createPolicy 0 (create 1), activate, notify (declare left) "left",
    sampleLeft 0 "first", sampleLeft 0 "second"]

def leftLatency : EvidenceKey := { source := name "source", path := left, kind := .pathLatency }

end Scenario

open Scenario in
/-- Two samples in the order of their sequences. -/
theorem sampled_in_order : ∃ series, (after sampled).state.evidence[leftLatency]? = some series ∧
    series.samples.length = 2 ∧
    series.InOrder config.limits (PublishedIn config.limits (callsTo sampled)) leftLatency := by
  obtain ⟨series, hseries, hlength⟩ : ∃ series,
      (after sampled).state.evidence[leftLatency]? = some series ∧
        (series.samples.length == 2) = true :=
    (Option.any_eq_true _ _).1 (by decide +kernel)
  have htrace : Runs.Trace (Engine.step config) (fun _ e op => op.Advancing config.limits e.state)
      engine (callsTo sampled) (after sampled) := by
    refine Runs.Trace.callsOf .start (runAll_after (by decide +kernel : returns sampled = true))
      fun front call back heq => ?_
    have hmem : call ∈ callsTo sampled := by
      unfold callsTo
      rw [heq]
      exact List.mem_append_right _ List.mem_cons_self
    exact .of_numbered (List.all_eq_true.1 (by decide +kernel : ((callsTo sampled).all
      fun call => call.label.numbered) = true) call hmem) _ _
  exact ⟨series, hseries, beq_iff_eq.1 hlength,
    ((evidence_in_order (by decide) htrace rfl).1 leftLatency series hseries).1⟩

open Scenario in
/-- A sample with the sequence 0 is published again, and accepted. -/
theorem zero_accepted_twice : Engine.Reachable config (after zeroTwice) ∧
    ∃ series, (after zeroTwice).state.evidence[leftLatency]? = some series ∧
      series.samples.map (·.observationSequence) = [0, 0] ∧
      ¬ series.samples.Pairwise fun a b => a.observationSequence < b.observationSequence := by
  obtain ⟨series, hseries, htest⟩ : ∃ series,
      (after zeroTwice).state.evidence[leftLatency]? = some series ∧
        (series.samples.map (·.observationSequence) == [0, 0]) = true :=
    (Option.any_eq_true _ _).1 (by decide +kernel)
  have hsequences := beq_iff_eq.1 htest
  refine ⟨reachable_after (by decide +kernel), series, hseries, hsequences, fun hincreasing => ?_⟩
  have hmap := List.pairwise_map.2 hincreasing
  rw [hsequences] at hmap
  simp at hmap

end AdaptiveRouting
