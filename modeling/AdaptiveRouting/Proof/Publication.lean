import AdaptiveRouting.Lib.Pointwise
import AdaptiveRouting.Proof.Refusals
import AdaptiveRouting.Proof.Scenario

/-!
# Evidence batches

A batch is validated against a view of the series it touches, then applied publication by
publication. The view predicts what the application does (`Predicts`): one validated publication
keeps the prediction (`Predicts.step`), so a validated batch ends in it (`predicts_batch`). Each
series gets the publications of its key in their order (`applyPublications_get`). What can still fail
after the application is the evidence generation (`publishEvidence_atomic_iff`).
-/

namespace AdaptiveRouting

open Guard

/-! ## One publication and its series -/

/-- A publication appended to its series: behind the samples of its incarnation, the oldest sample
giving way at the capacity. -/
def EvidenceSeries.append (limits : Limits) (now : Ticks) (p : EvidencePublication)
    (series : Option EvidenceSeries) : EvidenceSeries :=
  let series : EvidenceSeries := match series with
    | none =>
      { source := p.source, sourceGeneration := p.sourceGeneration, quality := p.quality
        path := p.path, kind := p.value.kind }
    | some series =>
      if series.sourceGeneration < p.sourceGeneration then
        { series with samples := [], sourceGeneration := p.sourceGeneration, quality := p.quality }
      else series
  { series with
    samples := keepLast limits.maxEvidenceSamplesPerSeries (series.samples ++
      [{ path := p.path, value := p.value, acceptedAt := now
         observationSequence := p.observationSequence }])
    totalPublished := series.totalPublished + 1 }

theorem keepLast_getLast {α : Type} {bound : UInt64} (hbound : bound ≠ 0) (xs : List α) (x : α) :
    (keepLast bound (xs ++ [x])).getLast? = some x := by
  have hpos : 0 < bound.toNat := Nat.pos_of_ne_zero fun h => hbound (UInt64.toNat_inj.1 h)
  have hlen : (xs ++ [x]).length - bound.toNat ≤ xs.length := by
    rw [List.length_append, List.length_singleton]
    omega
  rw [keepLast, List.drop_append_of_le_length hlen, List.getLast?_append]
  rfl

/-! ## The readings of a batch -/

theorem acceptances_map (clock : Nat → Ticks) (publications : List EvidencePublication) :
    (acceptances clock publications).map (·.2) = publications := by
  unfold acceptances
  rw [List.map_map]
  exact List.zipIdx_map_fst 0 publications

theorem acceptances_length (clock : Nat → Ticks) (publications : List EvidencePublication) :
    (acceptances clock publications).length = publications.length := by
  rw [acceptances, List.length_map, List.length_zipIdx]

theorem acceptances_ne (clock : Nat → Ticks) {publications : List EvidencePublication}
    (h : publications ≠ []) : acceptances clock publications ≠ [] := fun hnil => by
  rw [← acceptances_map clock publications, hnil] at h
  exact h rfl

theorem acceptances_mem {clock : Nat → Ticks} {publications : List EvidencePublication}
    {accepted : Ticks × EvidencePublication} (h : accepted ∈ acceptances clock publications) :
    accepted.2 ∈ publications := by
  rw [← acceptances_map clock publications]
  exact List.mem_map_of_mem h

namespace State

section
variable (limits : Limits)

theorem applyPublication_evidence (s : State) (accepted : Ticks × EvidencePublication) :
    (applyPublication limits s accepted).evidence = s.evidence.insert accepted.2.key
      (EvidenceSeries.append limits accepted.1 accepted.2 s.evidence[accepted.2.key]?) := by
  obtain ⟨now, p⟩ := accepted
  unfold applyPublication EvidenceSeries.append
  dsimp only
  cases s.evidence[p.key]? with
  | none => rfl
  | some series =>
    dsimp only
    split <;> rfl

/-- An applied publication changes the series of its key only. -/
theorem applyPublication_local :
    Pointwise.Local (fun (s : State) key => s.evidence[key]?)
      (fun accepted : Ticks × EvidencePublication => accepted.2.key)
      (fun accepted series => some (EvidenceSeries.append limits accepted.1 accepted.2 series))
      (applyPublication limits) := by
  intro s accepted key
  show (applyPublication limits s accepted).evidence[key]? = _
  rw [applyPublication_evidence, Std.ExtTreeMap.getElem?_insert]
  by_cases hkey : accepted.2.key = key
  · subst hkey
    simp
  · rw [if_neg hkey, if_neg fun hc => hkey (Std.LawfulEqCmp.eq_of_compare hc)]

/-- Each series gets the publications of its key, in their order. -/
theorem applyPublications_get (batch : List (Ticks × EvidencePublication)) (s : State)
    (key : EvidenceKey) :
    (batch.foldl (applyPublication limits) s).evidence[key]? =
      (batch.filter fun accepted => accepted.2.key = key).foldl
        (fun series accepted => some (EvidenceSeries.append limits accepted.1 accepted.2 series))
        s.evidence[key]? :=
  (applyPublication_local limits).foldl batch s key

theorem append_totalPublished (now : Ticks) (p : EvidencePublication) (series : Option EvidenceSeries) :
    (EvidenceSeries.append limits now p series).totalPublished =
      ((series.map (·.totalPublished)).getD 0) + 1 := by
  unfold EvidenceSeries.append
  cases series with
  | none => rfl
  | some series =>
    dsimp only
    split <;> rfl

/-- A series counts every publication appended to it. -/
theorem appends_totalPublished (batch : List (Ticks × EvidencePublication))
    (series : Option EvidenceSeries) :
    ((batch.foldl (fun series accepted =>
        some (EvidenceSeries.append limits accepted.1 accepted.2 series)) series).map
        (·.totalPublished)).getD 0 =
      (series.map (·.totalPublished)).getD 0 + UInt64.ofNat batch.length := by
  induction batch generalizing series with
  | nil => simp
  | cons accepted rest ih =>
    rw [List.foldl_cons, ih, Option.map_some, Option.getD_some, append_totalPublished,
      List.length_cons, UInt64.add_assoc]
    congr 1
    rw [UInt64.ofNat_add, UInt64.add_comm]
    rfl

/-- A batch that is not empty leaves its mark on the series of each of its publications. -/
theorem applyPublications_ne {batch : List (Ticks × EvidencePublication)} {bound : UInt64}
    (hne : batch ≠ []) (hbound : batch.length ≤ bound.toNat) (s : State) :
    (batch.foldl (applyPublication limits) s).evidence ≠ s.evidence := by
  obtain ⟨p, rest, rfl⟩ := List.exists_cons_of_ne_nil hne
  intro hsame
  have hget := applyPublications_get limits (p :: rest) s p.2.key
  rw [hsame] at hget
  have hcount := appends_totalPublished limits
    ((p :: rest).filter fun q => q.2.key = p.2.key) s.evidence[p.2.key]?
  rw [← hget] at hcount
  generalize (s.evidence[p.2.key]?.map (·.totalPublished)).getD 0 = total at hcount
  generalize hn : ((p :: rest).filter fun q => decide (q.2.key = p.2.key)).length = n at hcount
  have hpos : 0 < n := by
    rw [← hn]
    simp
  have hle : n ≤ bound.toNat := by
    rw [← hn]
    exact Nat.le_trans (List.length_filter_le _ _) hbound
  have hlt := bound.toNat_lt
  have hnat := congrArg UInt64.toNat hcount
  rw [UInt64.toNat_add, UInt64.toNat_ofNat_of_lt' (by simpa using Nat.lt_of_le_of_lt hle hlt)] at hnat
  have htotal := total.toNat_lt
  omega

end

/-! ## The batch view -/

theorem max_ge (a b : UInt64) : a ≤ max a b ∧ b ≤ max a b := by
  show a ≤ (if a ≤ b then b else a) ∧ b ≤ (if a ≤ b then b else a)
  split
  · exact ⟨by assumption, UInt64.le_refl _⟩
  · exact ⟨UInt64.le_refl _, UInt64.le_of_lt (UInt64.not_le.1 (by assumption))⟩

/-- What the validation of a publication establishes, and the view it returns. -/
structure Validated (s : State) (batch : BatchState) (p : EvidencePublication)
    (batch' : BatchState) : Prop where
  generation : p.sourceGeneration.value ≠ 0
  stored : ∀ series, s.evidence[p.key]? = some series →
    series.sourceGeneration.value ≤ p.sourceGeneration.value
  seen : ∀ view, batch[p.key]? = some view → view.sourceGeneration ≤ p.sourceGeneration.value
  storedQuality : ∀ series, s.evidence[p.key]? = some series →
    series.sourceGeneration.value = p.sourceGeneration.value → series.quality = p.quality
  seenQuality : ∀ view, batch[p.key]? = some view →
    view.sourceGeneration = p.sourceGeneration.value →
    (∀ series, s.evidence[p.key]? = some series →
      series.sourceGeneration.value ≠ p.sourceGeneration.value) → view.quality = p.quality
  next : batch' = batch.insert p.key
    { sourceGeneration := p.sourceGeneration.value, quality := p.quality
      lastSequence := p.observationSequence }

theorem validatePublication_ok {s : State} {limits : Limits} {scope : AuthorityScope}
    {batch batch' : BatchState} {p : EvidencePublication}
    (h : s.validatePublication limits scope batch p = .ok batch') : Validated s batch p batch' := by
  unfold validatePublication at h
  obtain ⟨hformed, h⟩ := seq_ok h
  obtain ⟨-, h⟩ := seq_ok h
  obtain ⟨-, h⟩ := seq_ok h
  obtain ⟨hstale, h⟩ := seq_ok h
  obtain ⟨hquality, h⟩ := seq_ok h
  obtain ⟨-, h⟩ := seq_ok h
  obtain ⟨-, h⟩ := seq_ok h
  cases h
  have hgeneration : p.sourceGeneration.value ≠ 0 := by
    simp only [EvidencePublication.wellFormed, Bool.not_eq_false', Bool.and_eq_true] at hformed
    simpa [Generation.valid] using hformed.1.1.2
  generalize hstored : s.evidence[p.key]? = stored at hstale hquality
  generalize hseen : batch[p.key]? = seen at hstale hquality
  generalize heffective : max ((stored.map (·.sourceGeneration.value)).getD 0)
    ((seen.map (·.sourceGeneration)).getD 0) = effective at hstale hquality
  have hle : effective ≤ p.sourceGeneration.value := by
    by_cases hzero : effective = 0
    · rw [hzero]
      exact UInt64.zero_le
    · simpa [hzero] using hstale
  have hstoredLe : ∀ series, stored = some series → series.sourceGeneration.value ≤ effective := by
    rintro series rfl
    rw [← heffective]
    exact (max_ge _ _).1
  have hseenLe : ∀ view, seen = some view → view.sourceGeneration ≤ effective := by
    rintro view rfl
    rw [← heffective]
    exact (max_ge _ _).2
  -- at the effective generation the quality is compared
  have hsame : effective = p.sourceGeneration.value → _ := fun heq => by
    simpa [heq, hgeneration] using hquality
  have hreached : ∀ generation, generation = p.sourceGeneration.value → generation ≤ effective →
      effective = p.sourceGeneration.value := fun generation heq hge =>
    UInt64.le_antisymm hle (heq ▸ hge)
  refine ⟨hgeneration, fun series hseries => ?_, fun view hview => ?_, fun series hseries heq => ?_,
    fun view hview heq hother => ?_, rfl⟩
  · exact UInt64.le_trans (hstoredLe series (hstored.symm.trans hseries)) hle
  · exact UInt64.le_trans (hseenLe view (hseen.symm.trans hview)) hle
  · have hfound := hstored.symm.trans hseries
    have hquality := hsame (hreached _ heq (hstoredLe series hfound))
    subst hfound
    simpa [heq] using hquality
  · have hfound := hseen.symm.trans hview
    have hquality := hsame (hreached _ heq (hseenLe view hfound))
    subst hfound
    cases stored with
    | none => simpa using hquality
    | some series =>
      have hne := hother series hstored
      simpa [Ne.symm hne] using hquality

/-- A series is what the view of the batch says of its key. -/
structure Predicted (limits : Limits) (view : BatchKeyState) (series : EvidenceSeries) : Prop where
  generation : series.sourceGeneration.value = view.sourceGeneration
  quality : series.quality = view.quality
  sequence : limits.maxEvidenceSamplesPerSeries ≠ 0 →
    series.samples.getLast?.map (·.observationSequence) = some view.lastSequence

/-- The view of a batch validated against `s` predicts the series of `s'`. -/
structure Predicts (limits : Limits) (s : State) (batch : BatchState) (s' : State) : Prop where
  untouched : ∀ key : EvidenceKey, batch[key]? = none → s'.evidence[key]? = s.evidence[key]?
  touched : ∀ (key : EvidenceKey) (view : BatchKeyState), batch[key]? = some view →
    ∃ series, s'.evidence[key]? = some series ∧ Predicted limits view series
  ahead : ∀ (key : EvidenceKey) (view : BatchKeyState) (stored : EvidenceSeries),
    batch[key]? = some view → s.evidence[key]? = some stored →
    stored.sourceGeneration.value ≤ view.sourceGeneration ∧
      (stored.sourceGeneration.value = view.sourceGeneration → stored.quality = view.quality)

/-- A publication that is not behind its series decides what the view says next. -/
theorem append_predicted {limits : Limits} {now : Ticks} {p : EvidencePublication}
    {series : Option EvidenceSeries}
    (hle : ∀ x, series = some x → x.sourceGeneration.value ≤ p.sourceGeneration.value)
    (hquality : ∀ x, series = some x → x.sourceGeneration.value = p.sourceGeneration.value →
      x.quality = p.quality) :
    Predicted limits
      { sourceGeneration := p.sourceGeneration.value, quality := p.quality
        lastSequence := p.observationSequence } (EvidenceSeries.append limits now p series) := by
  have hsequence : limits.maxEvidenceSamplesPerSeries ≠ 0 →
      (EvidenceSeries.append limits now p series).samples.getLast?.map (·.observationSequence) =
        some p.observationSequence := by
    intro hcapacity
    unfold EvidenceSeries.append
    dsimp only
    rw [keepLast_getLast hcapacity]
    rfl
  cases series with
  | none => exact ⟨rfl, rfl, hsequence⟩
  | some series =>
    by_cases hnew : series.sourceGeneration < p.sourceGeneration
    · refine ⟨?_, ?_, hsequence⟩
      · simp [EvidenceSeries.append, hnew]
      · simp [EvidenceSeries.append, hnew]
    · have heq : series.sourceGeneration.value = p.sourceGeneration.value :=
        UInt64.le_antisymm (hle series rfl) (UInt64.not_lt.1 hnew)
      refine ⟨?_, ?_, hsequence⟩
      · simpa [EvidenceSeries.append, hnew] using heq
      · simpa [EvidenceSeries.append, hnew] using hquality series rfl heq

/-- The series a validated publication finds is not ahead of it. -/
theorem Predicts.found {limits : Limits} {s s' : State} {batch batch' : BatchState}
    {p : EvidencePublication} (hp : Predicts limits s batch s') (hv : Validated s batch p batch')
    {series : EvidenceSeries} (hseries : s'.evidence[p.key]? = some series) :
    series.sourceGeneration.value ≤ p.sourceGeneration.value ∧
      (series.sourceGeneration.value = p.sourceGeneration.value → series.quality = p.quality) := by
  cases hseen : batch[p.key]? with
  | none =>
    rw [hp.untouched p.key hseen] at hseries
    exact ⟨hv.stored series hseries, hv.storedQuality series hseries⟩
  | some view =>
    obtain ⟨y, hy, hpredicted⟩ := hp.touched p.key view hseen
    cases hseries.symm.trans hy
    rw [hpredicted.generation, hpredicted.quality]
    refine ⟨hv.seen view hseen, fun heq => ?_⟩
    by_cases hstored : ∃ stored, s.evidence[p.key]? = some stored ∧
        stored.sourceGeneration.value = p.sourceGeneration.value
    · obtain ⟨stored, hs, hgeneration⟩ := hstored
      have hsame := (hp.ahead p.key view stored hseen hs).2 (hgeneration.trans heq.symm)
      rw [← hsame]
      exact hv.storedQuality stored hs hgeneration
    · exact hv.seenQuality view hseen heq fun stored hs hgeneration =>
        hstored ⟨stored, hs, hgeneration⟩

/-- A validated publication keeps the prediction. -/
theorem Predicts.step {limits : Limits} {now : Ticks} {s s' : State} {batch batch' : BatchState}
    {p : EvidencePublication} (hp : Predicts limits s batch s') (hv : Validated s batch p batch') :
    Predicts limits s batch' (applyPublication limits s' (now, p)) := by
  have hlocal := applyPublication_local limits
  have hview : ∀ key : EvidenceKey, batch'[key]? = if p.key = key
      then some { sourceGeneration := p.sourceGeneration.value, quality := p.quality
                  lastSequence := p.observationSequence } else batch[key]? := by
    intro key
    rw [hv.next, Std.ExtTreeMap.getElem?_insert]
    simp only [Std.LawfulEqCmp.compare_eq_iff_eq]
  refine ⟨fun key hnone => ?_, fun key view hsome => ?_, fun key view stored hsome hstored => ?_⟩
  · rw [hview] at hnone
    by_cases hkey : p.key = key
    · rw [if_pos hkey] at hnone
      cases hnone
    · rw [if_neg hkey] at hnone
      exact (hlocal.other s' hkey).trans (hp.untouched key hnone)
  · rw [hview] at hsome
    by_cases hkey : p.key = key
    · subst hkey
      rw [if_pos rfl] at hsome
      cases hsome
      exact ⟨_, hlocal.self s' (now, p),
        append_predicted (fun _ hx => (hp.found hv hx).1) (fun _ hx => (hp.found hv hx).2)⟩
    · rw [if_neg hkey] at hsome
      obtain ⟨series, hseries, hpredicted⟩ := hp.touched key view hsome
      exact ⟨series, (hlocal.other s' hkey).trans hseries, hpredicted⟩
  · rw [hview] at hsome
    by_cases hkey : p.key = key
    · subst hkey
      rw [if_pos rfl] at hsome
      cases hsome
      exact ⟨hv.stored stored hstored, hv.storedQuality stored hstored⟩
    · rw [if_neg hkey] at hsome
      exact hp.ahead key view stored hsome hstored

/-- The view that validates a batch predicts what applying it does, at any clock readings. -/
theorem predicts_batch {limits : Limits} {scope : AuthorityScope} {s s' : State}
    {accepted : List (Ticks × EvidencePublication)} {batch batch' : BatchState}
    (hp : Predicts limits s batch s')
    (h : (accepted.map (·.2)).foldlM (s.validatePublication limits scope) batch = .ok batch') :
    Predicts limits s batch' (accepted.foldl (applyPublication limits) s') := by
  induction accepted generalizing batch s' with
  | nil =>
    cases h
    exact hp
  | cons p rest ih =>
    rw [List.map_cons, List.foldlM_cons] at h
    obtain ⟨viewed, hvalid, hrest⟩ := bind_ok h
    exact ih (hp.step (validatePublication_ok hvalid)) hrest

theorem Predicts.start (limits : Limits) (s : State) : Predicts limits s {} s where
  untouched := fun _ _ => rfl
  touched := fun key view h => by simp at h
  ahead := fun key view stored h => by simp at h

/-! ## The whole batch -/

/-- Each publication is appended to its series in the order of the batch, no other series changes,
and the view the batch was validated with tells where every series ends. -/
structure Published (limits : Limits) (clock : Nat → Ticks) (request : PublishEvidenceRequest)
    (s s' : State) : Prop where
  appended : ∀ key : EvidenceKey, s'.evidence[key]? =
    ((acceptances clock request.publications).filter fun accepted => accepted.2.key = key).foldl
      (fun series accepted => some (EvidenceSeries.append limits accepted.1 accepted.2 series))
      s.evidence[key]?
  predicted : ∃ registration batch, s.registrations[request.context.publisher]? = some registration ∧
    request.publications.foldlM (s.validatePublication limits registration.scope) {} = .ok batch ∧
    Predicts limits s batch s'

/-- The evidence is as it was. -/
structure Unpublished (s s' : State) : Prop where
  evidence : s'.evidence = s.evidence
  sources : s'.policiesBySource = s.policiesBySource
  watermark : s'.evidenceWatermark = s.evidenceWatermark
  generation : s'.evidenceGeneration = s.evidenceGeneration

/-- A batch is published whole, with one more evidence generation, or not at all. -/
def PublishesAtomically (limits : Limits) (s : State) (clock : Nat → Ticks)
    (request : PublishEvidenceRequest) : Prop :=
  let after := s.publishEvidence limits clock request
  after.2.outcome = .policyUpdated ∧ Published limits clock request s after.1 ∧
      after.1.evidenceGeneration.value.toNat = s.evidenceGeneration.value.toNat + 1 ∨
    after.2.outcome ≠ .policyUpdated ∧ Unpublished s after.1

/-- No check of a batch answers that it was published. -/
theorem publishChecks_refuses (s : State) (limits : Limits) (request : PublishEvidenceRequest) :
    Refuses (fun answer => answer.outcome ≠ .policyUpdated) (s.publishChecks limits request) := by
  have hrejection : ∀ answer : OperationResult,
      answer.outcome.isRejection = true → answer.outcome ≠ .policyUpdated := by
    intro answer hrejected hupdated
    rw [hupdated] at hrejected
    cases hrejected
  unfold publishChecks
  refine .bind (.guard (by simp)) fun _ => .bind (.guard (by simp)) fun _ => ?_
  refine .bind (Refuses.mono (s.requireCaller_rejecting request.context none none default)
    hrejection) fun registration => ?_
  refine .bind (.absent fun answer hreplay => ?_) fun _ => ?_
  · unfold replayCheck at hreplay
    split at hreplay
    · cases hreplay
      simp
    · split at hreplay
      · cases hreplay
      · split at hreplay
        · cases hreplay
          simp
        · cases hreplay
          simp
  · refine .bind (Refuses.mono ?_ hrejection) fun _ => .ok _
    exact .foldlM (validatePublication_rejecting s limits registration.scope) _ _

/-- What the checks of a batch that passed them say. -/
theorem publishChecks_passed {s : State} {limits : Limits} {request : PublishEvidenceRequest}
    {fingerprint : Text} (h : s.publishChecks limits request = .ok fingerprint) :
    request.publications ≠ [] ∧ request.publications.length ≤ limits.maxBatchSize.toNat ∧
      ∃ registration batch, s.registrations[request.context.publisher]? = some registration ∧
        request.publications.foldlM (s.validatePublication limits registration.scope) {} =
          .ok batch := by
  unfold publishChecks at h
  obtain ⟨hempty, h⟩ := seq_ok h
  obtain ⟨hsize, h⟩ := seq_ok h
  obtain ⟨registration, hcaller, h⟩ := bind_ok h
  obtain ⟨-, -, h⟩ := bind_ok h
  obtain ⟨batch, hbatch, -⟩ := bind_ok h
  refine ⟨by simpa using hempty, by simpa [exceeds] using hsize, registration, batch, ?_, hbatch⟩
  exact (requireCaller_ok hcaller).registered

/-- A batch that a check refuses changes nothing. -/
theorem publishEvidence_refused {s : State} {limits : Limits} {request : PublishEvidenceRequest}
    {refusal : OperationResult} (h : s.publishChecks limits request = .error refusal)
    (clock : Nat → Ticks) : s.publishEvidence limits clock request = (s, refusal) := by
  unfold publishEvidence
  rw [h]

/-- A batch is atomic exactly when it is refused by a check, or the evidence generation has a
successor: the only failure behind the application is an exhausted generation. -/
theorem publishEvidence_atomic_iff (limits : Limits) (s : State) (clock : Nat → Ticks)
    (request : PublishEvidenceRequest) :
    PublishesAtomically limits s clock request ↔
      (∃ answer, s.publishChecks limits request = .error answer) ∨
        s.evidenceGeneration.next.isSome = true := by
  unfold PublishesAtomically publishEvidence
  cases hchecks : s.publishChecks limits request with
  | error answer =>
    refine ⟨fun _ => .inl ⟨answer, rfl⟩, fun _ => .inr ?_⟩
    exact ⟨s.publishChecks_refuses limits request answer hchecks, rfl, rfl, rfl, rfl⟩
  | ok fingerprint =>
    obtain ⟨hne, hsize, registration, batch, hregistered, hbatch⟩ := publishChecks_passed hchecks
    have hfold := foldl_keeps State.evidenceGeneration (f := applyPublication limits)
      (fun _ _ => rfl) (acceptances clock request.publications) s
    dsimp only
    rw [hfold]
    cases hnext : s.evidenceGeneration.next with
    | none =>
      refine ⟨?_, ?_⟩
      · rintro (⟨houtcome, -⟩ | ⟨-, hunpublished⟩)
        · simp at houtcome
        · exact absurd hunpublished.evidence (applyPublications_ne limits
            (acceptances_ne clock hne) (by rwa [acceptances_length]) s)
      · rintro (⟨answer, herror⟩ | hsome)
        · cases herror
        · cases hsome
    | some generation =>
      refine ⟨fun _ => .inr rfl, fun _ => .inl ⟨by simp, ⟨fun key => ?_, ?_⟩, ?_⟩⟩
      · rw [recordAttempt_evidence]
        exact applyPublications_get limits (acceptances clock request.publications) s key
      · refine ⟨registration, batch, hregistered, hbatch, ?_⟩
        have hpredicts : Predicts limits s batch
            ((acceptances clock request.publications).foldl (applyPublication limits) s) :=
          predicts_batch (Predicts.start limits s) (by rwa [acceptances_map])
        refine ⟨fun key h => ?_, fun key view h => ?_, hpredicts.ahead⟩
        · rw [recordAttempt_evidence]
          exact hpredicts.untouched key h
        · rw [recordAttempt_evidence]
          exact hpredicts.touched key view h
      · dsimp only
        rw [recordAttempt_evidenceGeneration]
        exact Generation.next_toNat hnext

end State

section
open Scenario

/-- The state of a run recovered at an evidence generation, and a candidate declared. -/
def Scenario.secondEpoch (ops : List Op) (generation : UInt64) : List Op :=
  [.decodeStore 0 (.ok { (after ops).state.buildDurable 0 with
      evidenceGeneration := ⟨generation⟩ }) "store",
    register, .applyUpstream { notifications := [declare left], context := context 2 "left" }]

/-- One latency sample of the left path. -/
def Scenario.sample : PublishEvidenceRequest where
  publications := [{ source := name "source", sourceGeneration := ⟨1⟩, path := left
                     value := latency 100, observationSequence := 1 }]
  context := context 2 "evidence"

/-- A store saved at the last evidence generation. -/
def Scenario.exhausted : List Op :=
  [register, .createPolicy 0 (create 1)] ++
    secondEpoch [register, .createPolicy 0 (create 1)] 0xFFFFFFFFFFFFFFFF

/-- At the last evidence generation a batch is answered GENERATION_OVERFLOW with its samples in the
store. -/
theorem overflowing_batch_publishes :
    ¬ ∀ (e : Engine) (clock : Nat → Ticks) (request : PublishEvidenceRequest),
      Engine.Reachable config e → State.PublishesAtomically config.limits e.state clock request := by
  intro hclaim
  have hok : ((after exhausted).state.publishChecks config.limits sample).isOk = true := by
    decide +kernel
  have hlast : (after exhausted).state.evidenceGeneration.next.isSome = false := by
    decide +kernel
  have hatomic := hclaim (after exhausted) (fun _ => 1) sample (reachable_after (by decide +kernel))
  rcases (State.publishEvidence_atomic_iff _ _ _ _).1 hatomic with ⟨answer, hrefused⟩ | hnext
  · rw [hrefused] at hok
    cases hok
  · rw [hlast] at hnext
    cases hnext

end

end AdaptiveRouting
