import AdaptiveRouting.Proof.Dependencies

/-!
# What a drift names

A ticket records one route generation and one set generation for all its candidates, and a watermark
that says only that something about a path moved. The drift is decided by the first candidate that
moved (`firstMoved`, `dependencyDrift_first`); it names a dependency that did not move where that
candidate was already off the recorded generations when the ticket was taken, or where what moved is
none of the facts compared (`Misread`, `drift_names_iff`).
-/

namespace AdaptiveRouting

open Guard Engine

/-! ## What moved -/

/-- The generation and the legality of a path's authority. -/
def CandidateBinding.authority (b : CandidateBinding) : PathAuthorityGeneration × Bool :=
  (b.pathAuthority.generation, b.pathAuthority.legal)

/-- Some candidate of the ticket has another value of a fact now. -/
def Altered {α : Type} (fact : CandidateBinding → α) (before after : List CandidateRecord) : Prop :=
  ∃ c ∈ before, ∃ c' ∈ after, c'.binding.path = c.binding.path ∧ fact c'.binding ≠ fact c.binding

instance {α : Type} [DecidableEq α] (fact : CandidateBinding → α)
    (before after : List CandidateRecord) : Decidable (Altered fact before after) :=
  inferInstanceAs (Decidable (∃ c ∈ before, ∃ c' ∈ after,
    c'.binding.path = c.binding.path ∧ fact c'.binding ≠ fact c.binding))

/-- The dependency an outcome of the drift names moved. -/
def Names (before after : List CandidateRecord) : Outcome → Prop
  | .stalePathAuthority => Altered (·.authority) before after
  | .staleRoute => Altered (fun b => (b.route, b.available)) before after
  | .staleMultipathSet => Altered (·.multipath) before after
  | .revalidationRequired => ¬ ∀ path, path ∈ before.map (·.binding.path) ↔
      path ∈ after.map (·.binding.path)
  | _ => False

/-- Phase two takes the candidate in a ticket's place for one that moved. -/
def moved (c c' : CandidateRecord) : Bool :=
  c'.binding.path != c.binding.path || c'.pathWatermark != c.pathWatermark ||
    c'.binding.authority != c.binding.authority

/-- The first candidate that moved, as it was and as it is. -/
def firstMoved (before after : List CandidateRecord) : Option (CandidateRecord × CandidateRecord) :=
  (before.zip after).find? fun pair => moved pair.1 pair.2

/-- The set generation a ticket records: the one of its first candidate. -/
def dependencySet (candidates : List CandidateRecord) : MultipathSetGeneration :=
  ((candidates.head?.bind (·.binding.multipath)).map (·.generation)).getD {}

/-- A binding to a multipath set that is not current, or not of the generation the ticket records. -/
def CandidateBinding.offSet (b : CandidateBinding) (before : List CandidateRecord) : Bool :=
  b.multipath.any fun m => !m.current || !(dependencySet before).valid ||
    m.generation != dependencySet before

/-- The outcome of a candidate that moved. -/
inductive MovedTo (before : List CandidateRecord) (c c' : CandidateRecord) : Outcome → Prop
  | other (path : c'.binding.path ≠ c.binding.path) : MovedTo before c c' .revalidationRequired
  | authority (path : c'.binding.path = c.binding.path)
      (moved : c'.binding.authority ≠ c.binding.authority) : MovedTo before c c' .stalePathAuthority
  | set (path : c'.binding.path = c.binding.path)
      (kept : c'.binding.authority = c.binding.authority) (off : c'.binding.offSet before = true) :
      MovedTo before c c' .staleMultipathSet
  | route (path : c'.binding.path = c.binding.path)
      (kept : c'.binding.authority = c.binding.authority) (on : c'.binding.offSet before = false)
      (off : c'.binding.route.generation ≠ State.dependencyRoute before) :
      MovedTo before c c' .staleRoute
  | rest (path : c'.binding.path = c.binding.path)
      (kept : c'.binding.authority = c.binding.authority) (on : c'.binding.offSet before = false)
      (same : c'.binding.route.generation = State.dependencyRoute before) :
      MovedTo before c c' .stalePathAuthority

section
variable {s : State} {now : Ticks} {record : PolicyRecord} {evaluation : EvaluationId}
  {after : List CandidateRecord}

/-- The drift of one candidate from the dependencies of a ticket. -/
theorem candidateDrift_moved {index : Nat} {c : CandidateRecord}
    (hc : record.candidates[index]? = some c) (c' : CandidateRecord) :
    (candidateDrift (s.buildDependencies now record evaluation) index c' = none ∧
      moved c c' = false) ∨
    ∃ outcome, candidateDrift (s.buildDependencies now record evaluation) index c' = some outcome ∧
      moved c c' = true ∧ MovedTo record.candidates c c' outcome := by
  have hpath : (s.buildDependencies now record evaluation).candidates[index]? =
      some c.binding.path := by simp [State.buildDependencies, hc]
  have hmark : (s.buildDependencies now record evaluation).candidatePathWatermarks[index]? =
      some c.pathWatermark := by simp [State.buildDependencies, hc]
  have hauthority : (s.buildDependencies now record evaluation).candidatePathAuthority[index]? =
      some c.binding.pathAuthority := by simp [State.buildDependencies, hc]
  have hauthorityMoved : ((some c.binding.pathAuthority).any fun recorded =>
      recorded.generation != c'.binding.pathAuthority.generation ||
        recorded.legal != c'.binding.pathAuthority.legal) =
      (c'.binding.authority != c.binding.authority) := by
    rw [Bool.eq_iff_iff]
    simp only [CandidateBinding.authority, Option.any_some, Bool.or_eq_true, bne_iff_ne, ne_eq,
      Prod.mk.injEq, eq_comm (a := c.binding.pathAuthority.generation),
      eq_comm (a := c.binding.pathAuthority.legal), not_and_or]
  unfold candidateDrift
  rw [hpath, hmark, hauthority, hauthorityMoved]
  by_cases hat : c'.binding.path = c.binding.path
  swap
  · exact .inr ⟨_, by simp [Ne.symm hat], by simp [moved, hat], .other hat⟩
  by_cases hkept : c'.binding.authority = c.binding.authority
  swap
  · exact .inr ⟨.stalePathAuthority, by simp [hat, hkept], by simp [moved, hkept], .authority hat hkept⟩
  by_cases hmarked : c'.pathWatermark = c.pathWatermark
  · exact .inl ⟨by simp [hat, hkept, hmarked], by simp [moved, hat, hkept, hmarked]⟩
  have hmoved : moved c c' = true := by simp [moved, hmarked]
  have hmark : (some c.pathWatermark).any (· != c'.pathWatermark) = true := by
    simpa using Ne.symm hmarked
  have hoff : (c'.binding.multipath.any fun m => !m.current ||
      !(s.buildDependencies now record evaluation).multipathSetGeneration.valid ||
      m.generation != (s.buildDependencies now record evaluation).multipathSetGeneration) =
      c'.binding.offSet record.candidates := rfl
  rw [hoff, hmark]
  cases hset : c'.binding.offSet record.candidates with
  | true => exact .inr ⟨_, by simp [hat, hkept], hmoved, .set hat hkept hset⟩
  | false =>
    by_cases hroute : c'.binding.route.generation = State.dependencyRoute record.candidates
    · exact .inr ⟨.stalePathAuthority, by simp [hat, hkept, hroute, State.buildDependencies], hmoved,
        .rest hat hkept hset hroute⟩
    · exact .inr ⟨.staleRoute, by simp [hat, hkept, hroute, State.buildDependencies], hmoved,
        .route hat hkept hset hroute⟩

/-- The drift is that of the first candidate that moved, in a set of the same size. -/
theorem dependencyDrift_first {outcome : Outcome}
    (h : dependencyDrift after (s.buildDependencies now record evaluation) = some outcome) :
    record.candidates.length ≠ after.length ∧ outcome = .revalidationRequired ∨
    record.candidates.length = after.length ∧ ∃ c c',
      firstMoved record.candidates after = some (c, c') ∧ MovedTo record.candidates c c' outcome := by
  have hcount : (s.buildDependencies now record evaluation).candidates.length =
      record.candidates.length := List.length_map _
  unfold dependencyDrift at h
  rw [hcount] at h
  by_cases hlength : after.length = record.candidates.length
  swap
  · rw [if_pos hlength] at h
    cases h
    exact .inl ⟨Ne.symm hlength, rfl⟩
  rw [if_neg (not_not_intro hlength)] at h
  obtain ⟨front, ⟨c', index⟩, back, hsplit, hdrift, hfront⟩ := List.findSome?_eq_some_iff.1 h
  have hat : after.zipIdx[front.length]? = some (c', index) := by
    rw [hsplit]
    simp
  rw [List.getElem?_zipIdx] at hat
  obtain ⟨x, hx, hat⟩ := Option.map_eq_some_iff.1 hat
  cases hat
  rw [Nat.zero_add] at hdrift
  have hindex : front.length < record.candidates.length := by
    rw [← hlength]
    exact (List.getElem?_eq_some_iff.1 hx).1
  have hc := List.getElem?_eq_getElem hindex
  generalize record.candidates[front.length] = c at hc
  have hzip : (record.candidates.zip after)[front.length]? = some (c, c') := by
    rw [List.getElem?_zip_eq_some]
    exact ⟨hc, hx⟩
  rcases @candidateDrift_moved s now record evaluation _ c hc c' with
    ⟨hnone, -⟩ | ⟨_, hsome, hmoved, hto⟩
  · cases hnone.symm.trans hdrift
  cases hsome.symm.trans hdrift
  refine .inr ⟨hlength.symm, c, c', List.find?_eq_some_iff_getElem.2 ⟨hmoved, front.length, ?_⟩, hto⟩
  obtain ⟨hlt, hget⟩ := List.getElem?_eq_some_iff.1 hzip
  refine ⟨hlt, hget, fun j hj => ?_⟩
  have hjbefore : j < record.candidates.length := Nat.lt_trans hj hindex
  have hjafter : j < after.length := by omega
  have hmem : (after[j], j) ∈ front := by
    have hfound : after.zipIdx[j]? = some (after[j], j) := by
      rw [List.getElem?_zipIdx, List.getElem?_eq_getElem hjafter, Option.map_some, Nat.zero_add]
    rw [hsplit, List.getElem?_append_left hj] at hfound
    exact List.mem_of_getElem? hfound
  rw [List.getElem_zip]
  rcases @candidateDrift_moved s now record evaluation _ _ (List.getElem?_eq_getElem hjbefore)
    after[j] with ⟨-, hstill⟩ | ⟨_, hsome, -, -⟩
  · simpa using hstill
  · cases (hfront _ hmem).symm.trans hsome

end

/-! ## Misreadings -/

section
variable {before after : List CandidateRecord} {c c' : CandidateRecord}

/-- What a candidate that moved is misread for: a binding that was off the recorded set, or route,
generation when the ticket was taken, or an authority where something else moved. -/
inductive Misread (before after : List CandidateRecord) (c c' : CandidateRecord) : Prop
  | set (off : c.binding.offSet before = true) (kept : ¬ Altered (·.multipath) before after)
  | route (on : c'.binding.offSet before = false)
      (off : c.binding.route.generation ≠ State.dependencyRoute before)
      (kept : ¬ Altered (fun b => (b.route, b.available)) before after)
  | rest (on : c'.binding.offSet before = false)
      (same : c'.binding.route.generation = State.dependencyRoute before)
      (kept : ¬ Altered (·.authority) before after)

/-- The candidates are as many as the ticket's, and the first that moved stands in its place with its
authority, and is misread. -/
def Misnamed (before after : List CandidateRecord) : Prop :=
  before.length = after.length ∧ ∃ c c', firstMoved before after = some (c, c') ∧
    c'.binding.path = c.binding.path ∧ c'.binding.authority = c.binding.authority ∧
    Misread before after c c'

theorem firstMoved_mem (h : firstMoved before after = some (c, c')) : c ∈ before ∧ c' ∈ after :=
  List.of_mem_zip (List.mem_of_find?_eq_some h)

/-- A fact no candidate has another value of. -/
theorem kept_of_unaltered {α : Type} {fact : CandidateBinding → α} (h : ¬ Altered fact before after)
    (hc : c ∈ before) (hc' : c' ∈ after) (hpath : c'.binding.path = c.binding.path) :
    fact c'.binding = fact c.binding :=
  Classical.byContradiction fun hne => h ⟨c, hc, c', hc', hpath, hne⟩

/-- A drift names what moved unless the candidate it is decided by is misread. -/
theorem names_iff {r r' : PolicyRecord} (hr : r.Ordered) (hr' : r'.Ordered) {s : State} {now : Ticks}
    {evaluation : EvaluationId} {outcome : Outcome}
    (h : dependencyDrift r'.candidates (s.buildDependencies now r evaluation) = some outcome) :
    Names r.candidates r'.candidates outcome ↔ ¬ Misnamed r.candidates r'.candidates := by
  have hpaths (hne : r.candidates.map (·.binding.path) ≠ r'.candidates.map (·.binding.path)) :
      Names r.candidates r'.candidates .revalidationRequired :=
    fun hsame => hne (Search.keys_eq_of_mem_iff hr hr' hsame)
  rcases dependencyDrift_first h with ⟨hlength, rfl⟩ | ⟨hlength, c, c', hfirst, hto⟩
  · refine iff_of_true (hpaths fun hsame => hlength ?_) fun hmisnamed => hlength hmisnamed.1
    simpa using congrArg List.length hsame
  obtain ⟨hc, hc'⟩ := firstMoved_mem hfirst
  have hmisnamed : Misnamed r.candidates r'.candidates ↔ c'.binding.path = c.binding.path ∧
      c'.binding.authority = c.binding.authority ∧ Misread r.candidates r'.candidates c c' := by
    unfold Misnamed
    rw [hfirst]
    refine ⟨fun h => ?_, fun h => ⟨hlength, c, c', rfl, h⟩⟩
    obtain ⟨-, _, _, hsame, h⟩ := h
    cases hsame
    exact h
  rw [hmisnamed]
  cases hto with
  | other path =>
    refine iff_of_true (hpaths fun hsame => path ?_) fun h => path h.1
    obtain ⟨i, hi⟩ := List.mem_iff_getElem?.1 (List.mem_of_find?_eq_some hfirst)
    obtain ⟨hi, hi'⟩ := List.getElem?_zip_eq_some.1 hi
    have hrow := congrArg (·[i]?) hsame
    simp only [List.getElem?_map, hi, hi', Option.map_some, Option.some.injEq] at hrow
    exact hrow.symm
  | authority path moved =>
    exact iff_of_true ⟨c, hc, c', hc', path, moved⟩ fun h => moved h.2.1
  | set path kept off =>
    rw [and_iff_right path, and_iff_right kept]
    refine ⟨fun hnamed hmisread => ?_, fun hread => Classical.byContradiction fun hunaltered => ?_⟩
    · cases hmisread with
      | set _ unaltered => exact unaltered hnamed
      | route on => cases on.symm.trans off
      | rest on => cases on.symm.trans off
    · have hsame := kept_of_unaltered hunaltered hc hc' path
      refine hread (.set ?_ hunaltered)
      unfold CandidateBinding.offSet at off ⊢
      rwa [← hsame]
  | route path kept on off =>
    rw [and_iff_right path, and_iff_right kept]
    change Altered (fun b => (b.route, b.available)) _ _ ↔ _
    refine ⟨fun hnamed hmisread => ?_, fun hread => Classical.byContradiction fun hunaltered => ?_⟩
    · cases hmisread with
      | set wasOff unaltered =>
        have hsame := kept_of_unaltered unaltered hc hc' path
        unfold CandidateBinding.offSet at on wasOff
        rw [hsame, wasOff] at on
        cases on
      | route _ _ unaltered => exact unaltered hnamed
      | rest _ same => exact off same
    · have hsame := kept_of_unaltered hunaltered hc hc' path
      rw [Prod.mk.injEq] at hsame
      exact hread (.route on (by rwa [← hsame.1]) hunaltered)
  | rest path kept on same =>
    rw [and_iff_right path, and_iff_right kept]
    refine ⟨fun hnamed hmisread => ?_, fun hread => Classical.byContradiction fun hunaltered => ?_⟩
    · cases hmisread with
      | set wasOff unaltered =>
        have hsame := kept_of_unaltered unaltered hc hc' path
        unfold CandidateBinding.offSet at on wasOff
        rw [hsame, wasOff] at on
        cases on
      | route _ off unaltered =>
        have hsame := kept_of_unaltered unaltered hc hc' path
        rw [Prod.mk.injEq] at hsame
        exact off (by rwa [← hsame.1])
      | rest _ _ unaltered => exact unaltered hnamed
    · exact hread (.rest on same hunaltered)

end

/-! ## Tickets -/

/-- What a drift names after any run from phase one moved, unless the candidate that decides the drift
is misread. -/
theorem drift_names_iff {config : EngineConfig} {e e' e₁ : Engine} {begun : Ticks}
    {request : EvaluateRequest} {ticket : EvaluationTicket} {before after : PolicyRecord}
    {outcome : Outcome} (hreach : Reachable config e)
    (hbegin : e.step config (.beginEvaluation begun request) = some (e', .ticket ticket))
    (hticket : ticket.lifecycle ≠ .rejected)
    (hbefore : e.state.policies[request.policy]? = some before) (hrun : Run config e' e₁)
    (hafter : e₁.state.policies[request.policy]? = some after)
    (hdrift : dependencyDrift after.candidates ticket.dependencies = some outcome) :
    Names before.candidates after.candidates outcome ↔
      ¬ Misnamed before.candidates after.candidates := by
  have hreach₁ : Reachable config e₁ := by
    obtain ⟨nonce, hstart⟩ := hreach
    exact ⟨nonce, (hstart.tail trivial hbegin).trans hrun⟩
  have hordered := Ordered.reachable hreach request.policy before hbefore
  have hordered₁ := Ordered.reachable hreach₁ request.policy after hafter
  obtain ⟨⟨_, _⟩, hbegun, he⟩ := Option.map_eq_some_iff.1 hbegin
  cases he
  obtain ⟨-, hrefused | ⟨record, _, evaluation, _, haccepted, hissues⟩⟩ := beginEvaluation_issues hbegun
  · exact absurd hrefused.lifecycle hticket
  · cases hbefore.symm.trans haccepted.found
    rw [hissues.dependencies] at hdrift
    exact names_iff hordered hordered₁ hdrift

namespace Scenario

/-- The right path's authority advances. -/
def reauthorize : Op :=
  notify { event := .advancePathAuthority, policy
           binding := { binding right with pathAuthority.generation := ⟨2⟩ } } "authority"

/-- The right path becomes unavailable. -/
def unplug : Op := notify { declare right with event := .markUnavailable } "unplugged"

end Scenario

open Scenario in
/-- The drift names the authority that moved. -/
theorem advanced_authority_named : ∃ before record,
    (after challenged).state.policies[policy]? = some before ∧
    (after (begun ++ [reauthorize])).state.policies[policy]? = some record ∧
    dependencyDrift record.candidates firstTicket.dependencies = some .stalePathAuthority ∧
    Names before.candidates record.candidates .stalePathAuthority := by
  obtain ⟨before, hbefore, htest⟩ : ∃ before,
      (after challenged).state.policies[policy]? = some before ∧
        (((after (begun ++ [reauthorize])).state.policies[policy]?).any fun record =>
          dependencyDrift record.candidates firstTicket.dependencies == some .stalePathAuthority &&
          (firstMoved before.candidates record.candidates).all fun pair =>
            pair.2.binding.authority != pair.1.binding.authority) = true :=
    (Option.any_eq_true _ _).1 (by decide +kernel)
  obtain ⟨record, hrecord, htest⟩ := (Option.any_eq_true _ _).1 htest
  rw [Bool.and_eq_true, beq_iff_eq] at htest
  refine ⟨before, record, hbefore, hrecord, htest.1, ?_⟩
  refine (drift_names_iff (reachable_after (by decide +kernel)) take_first (by decide +kernel) hbefore
    (run_after begun [reauthorize] (by decide +kernel)) hrecord htest.1).2 fun hmisnamed => ?_
  obtain ⟨-, c, c', hfirst, -, hkept, -⟩ := hmisnamed
  have hmoved := htest.2
  rw [hfirst, Option.all_some] at hmoved
  exact bne_iff_ne.1 hmoved hkept

open Scenario in
/-- A path became unavailable, and the drift names the authorities, which are what they were. -/
theorem unavailable_as_unauthorized : Engine.Reachable config (after challenged) ∧
    (after challenged).step config (phaseOne "one") = some (after begun, .ticket firstTicket) ∧
    Engine.Run config (after begun) (after (begun ++ [unplug])) ∧
    (∃ result, (after (begun ++ [unplug])).step config commitFirst =
      some (after (begun ++ [unplug, commitFirst]), .result result) ∧
        result.outcome = .stalePathAuthority) ∧
    ∃ before record, (after challenged).state.policies[policy]? = some before ∧
      (after (begun ++ [unplug])).state.policies[policy]? = some record ∧
      dependencyDrift record.candidates firstTicket.dependencies = some .stalePathAuthority ∧
      ¬ Names before.candidates record.candidates .stalePathAuthority := by
  refine ⟨reachable_after (by decide +kernel), take_first, run_after begun [unplug] (by decide +kernel),
    step_result (by decide +kernel) (by decide +kernel), ?_⟩
  obtain ⟨before, hbefore, htest⟩ : ∃ before,
      (after challenged).state.policies[policy]? = some before ∧
        (((after (begun ++ [unplug])).state.policies[policy]?).any fun record =>
          dependencyDrift record.candidates firstTicket.dependencies == some .stalePathAuthority &&
          !decide (Altered (·.authority) before.candidates record.candidates)) = true :=
    (Option.any_eq_true _ _).1 (by decide +kernel)
  obtain ⟨record, hrecord, htest⟩ := (Option.any_eq_true _ _).1 htest
  rw [Bool.and_eq_true, beq_iff_eq, Bool.not_eq_true', decide_eq_false_iff_not] at htest
  exact ⟨before, record, hbefore, hrecord, htest⟩

end AdaptiveRouting
