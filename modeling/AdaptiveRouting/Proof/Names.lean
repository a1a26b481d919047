import AdaptiveRouting.Lib.Inverse
import AdaptiveRouting.Proof.Minting
import AdaptiveRouting.Proof.Scenario

/-!
# Names and identities of policies

The names index the policies (`Agreed`), and no policy lies ahead of the counter that mints its
identities (`Behind`), in every deployment whose engines recover no store that holds an identity their
own factory has still to mint. There a creation takes a fresh identity and leaves exactly what was
asked for (`creation_is_fresh`).
-/

namespace AdaptiveRouting

open Engine Indexes

/-! ## The names -/

/-- The names index the policies. -/
def Agreed (s : State) : Prop :=
  Inverse (fun (name : AdaptivePolicyName) => s.policyNames[name]?) s.record
    fun record => record.policy.name

theorem insertIfNew_update {d : IdDomain} {β : Type} {table : Std.ExtTreeMap (StrongId d) β}
    {key : StrongId d} {value : β} (h : table[key]? = none) :
    (fun key' => (table.insertIfNew key value)[key']?) =
      Function.update (fun key' => table[key']?) key (some value) := by
  funext key'
  by_cases hkey : key' = key
  · subst hkey
    rw [insertIfNew_get h, Function.update_self]
  · rw [Function.update_of_ne hkey, Std.ExtTreeMap.getElem?_insertIfNew,
      if_neg fun hc => hkey (Std.LawfulEqCmp.eq_of_compare hc.1).symm]

def Op.creates : Op → Bool
  | .createPolicy .. => true
  | _ => false

section
variable {config : EngineConfig} {e e' : Engine} {op : Op} {answer : Answer}

theorem Rewrites.name {limits : Limits} {policy : AdaptivePolicyId} {record record' : PolicyRecord}
    (h : Rewrites limits e op policy record record') :
    record'.policy.name = record.policy.name := by
  cases h with
  | updated =>
    unfold State.updatedRecord
    dsimp only
    split <;> rfl
  | _ => rfl

/-- Only a creation and a recovery change which policies there are, and none renames one. -/
theorem step_labels (h : e.step config op = some (e', answer)) (hcreates : op.creates = false)
    (hrecovers : op.recovers config.limits = none) (policy : AdaptivePolicyId) :
    (e'.state.record policy).map (·.policy.name) = (e.state.record policy).map (·.policy.name) := by
  unfold State.record
  have hchange := step_policies h
  generalize e'.state.policies = policies at hchange
  cases hchange with
  | kept => rfl
  | @rewritten subject before after found rewrites =>
    by_cases hsubject : subject = policy
    · subst hsubject
      rw [Std.ExtTreeMap.getElem?_insert_self, found]
      exact congrArg some rewrites.name
    · rw [get_insert_ne hsubject]
  | created creates =>
    subst creates
    cases hcreates
  | advanced =>
    rw [Std.ExtTreeMap.getElem?_map, Option.map_map]
    congr 1
    funext record
    show (State.requireRevalidation record).policy.name = _
    unfold State.requireRevalidation
    dsimp only
    split <;> rfl
  | @notified request =>
    have hframe := congrArg (Option.map fun frame : PolicyRecord => frame.policy.name)
      (State.applyNotifications_frame config.limits request.context e.state request.notifications
        policy)
    rw [Option.map_map, Option.map_map] at hframe
    exact hframe
  | recovered decodes admissible =>
    subst decodes
    simp [Op.recovers, admissible] at hrecovers

theorem step_policyNames (h : e.step config op = some (e', answer)) (hcreates : op.creates = false)
    (hrecovers : op.recovers config.limits = none) : e'.state.policyNames = e.state.policyNames := by
  cases step_directory h with
  | kept same => exact State.policyNames_of_directory same
  | created creates =>
    subst creates
    cases hcreates
  | revoked _ _ _ writes => exact congrArg Prod.fst writes
  | recovered recovers =>
    rw [hrecovers] at recovers
    cases recovers

/-- A creation under a fresh identity keeps the agreement. -/
theorem Agreed.create (hs : Agreed e.state) {now : Ticks} {request : CreatePolicyRequest}
    {result : OperationResult} (h : CreateEffect e now request result e')
    (hfresh : ∀ (id : AdaptivePolicyId) (ids : IdFactory), e.ids.mint .policy = some (id, ids) →
      e.state.policies[id]? = none) : Agreed e'.state := by
  cases h with
  | refused _ policies directory =>
    have hnames := State.policyNames_of_directory directory
    unfold Agreed State.record at hs ⊢
    rwa [policies, hnames]
  | @created id mints unnamed _ _ policies directory =>
    have hnames : e'.state.policyNames = e.state.policyNames.insertIfNew request.name id :=
      congrArg Prod.fst directory
    have hid := hfresh id e'.ids mints
    have hadd := hs.add (i := id) (r := e.state.newRecord now id request) hid unnamed
    unfold Agreed State.record at hadd ⊢
    rw [policies, hnames, insertIfNew_update hid, insertIfNew_update unnamed]
    exact hadd

theorem Agreed.step (hs : Agreed e.state) (h : e.step config op = some (e', answer))
    (hrecovers : op.recovers config.limits = none)
    (hfresh : op.creates = true → ∀ (id : AdaptivePolicyId) (ids : IdFactory),
      e.ids.mint .policy = some (id, ids) → e.state.policies[id]? = none) : Agreed e'.state := by
  cases hcreates : op.creates with
  | false =>
    unfold Agreed at hs ⊢
    rw [step_policyNames h hcreates hrecovers]
    exact hs.relabel (step_labels h hcreates hrecovers)
  | true =>
    cases op with
    | createPolicy now request =>
      obtain ⟨⟨e₁, result⟩, hcreate, he⟩ := Option.map_eq_some_iff.1 h
      cases he
      exact hs.create (createPolicy_cases hcreate) (hfresh rfl)
    | _ => cases hcreates

end

/-! ## Names of a recovered store -/

section
variable {s : State}

theorem written_names (hs : Agreed s) (hkeyed : Keyed s) (saved : Ticks) (name : AdaptivePolicyName) :
    (((s.buildDurable saved).stored.policies.filter fun policy => policy.name = name).head?).map
      AdaptivePolicy.id = s.policyNames[name]? := by
  have hentry {policy : AdaptivePolicy} (hmem : policy ∈
      (s.buildDurable saved).stored.policies.filter fun policy => policy.name = name) :
      s.policyNames[name]? = some policy.id := by
    obtain ⟨hpolicy, hname⟩ := List.mem_filter.1 hmem
    rw [stored_policies] at hpolicy
    obtain ⟨⟨id, record⟩, hlisted, rfl⟩ := List.mem_map.1 hpolicy
    have hfound := Std.ExtTreeMap.mem_toList_iff_getElem?_eq_some.1 hlisted
    have hid : record.policy.id = id := hkeyed id record hfound
    rw [hid]
    exact (hs name id).2 ⟨record, hfound, by simpa using hname⟩
  cases hfilter : (s.buildDurable saved).stored.policies.filter fun policy => policy.name = name with
  | cons policy rest =>
    rw [hentry (by rw [hfilter]; exact List.mem_cons_self)]
    rfl
  | nil =>
    cases hid : s.policyNames[name]? with
    | none => rfl
    | some id =>
      obtain ⟨record, hfound, hname⟩ := (hs name id).1 hid
      have hlisted : record.policy ∈ (s.buildDurable saved).stored.policies := by
        rw [stored_policies]
        exact List.mem_map.2
          ⟨(id, record), Std.ExtTreeMap.mem_toList_iff_getElem?_eq_some.2 hfound, rfl⟩
      have hmem : record.policy ∈
          (s.buildDurable saved).stored.policies.filter fun policy => policy.name = name :=
        List.mem_filter.2 ⟨hlisted, decide_eq_true hname⟩
      rw [hfilter] at hmem
      cases hmem

theorem Agreed.recovered (hs : Agreed s) (hkeyed : Keyed s) (hfiled : Filed s) (config : EngineConfig)
    (saved now : Ticks) (epoch : CoordinatorEpoch) (authority : AdaptiveAuthorityGeneration) :
    Agreed (State.recoveredState config now (s.buildDurable saved).stored epoch authority) := by
  have hnames : (fun (name : AdaptivePolicyName) => (State.recoveredState config now
      (s.buildDurable saved).stored epoch authority).policyNames[name]?) =
      fun (name : AdaptivePolicyName) => s.policyNames[name]? := by
    funext name
    rw [recovered_names, written_names hs hkeyed]
  unfold Agreed at hs ⊢
  rw [hnames]
  refine hs.relabel fun policy => ?_
  show Option.map _ (State.policies _)[policy]? = _
  rw [recovered_policies config saved now epoch authority hkeyed hfiled, Option.map_map]
  congr 1
  funext record
  show (State.recoveredRecord config.conservativeRecovery record.policy).policy.name = _
  unfold State.recoveredRecord
  dsimp only
  split <;> rfl

end

/-! ## Identities behind the counter -/

/-- The policies the engine's own factory minted lie behind its counter. -/
def Behind (e : Engine) : Prop :=
  ∀ policy ∈ e.state.policies, ∀ counter, policy.text = e.ids.compose .policy counter →
    counter ≤ e.ids.counter

/-- What keeps minted identities apart: the counter does not wrap, and no recovered store holds a
policy identity that the engine's factory has still to mint. -/
structure Apart (config : EngineConfig) (e : Engine) (op : Op) : Prop where
  room : e.ids.counter.toNat + op.mints < UInt64.size
  recovered : ∀ durable, op.recovers config.limits = some durable → ∀ policy ∈ durable.policies,
    ∀ counter, policy.id.text = e.ids.compose .policy counter → counter ≤ e.ids.counter

section
variable {config : EngineConfig} {e e' : Engine} {op : Op} {answer : Answer}

theorem Apart.minted (h : Apart config e op) (hcreates : op.creates = true) :
    e.ids.counter.toNat + 1 < UInt64.size := by
  have hroom := h.room
  cases op with
  | createPolicy => exact hroom
  | _ => cases hcreates

theorem Behind.fresh (hs : Behind e) (hroom : e.ids.counter.toNat + 1 < UInt64.size)
    {id : AdaptivePolicyId} {ids : IdFactory} (hmint : e.ids.mint .policy = some (id, ids)) :
    e.state.policies[id]? = none := by
  obtain ⟨htext, -⟩ := IdFactory.mint_eq hmint
  cases hfound : e.state.policies[id]? with
  | none => rfl
  | some record =>
    have hmem : id ∈ e.state.policies :=
      Std.ExtTreeMap.isSome_getElem?_iff_mem.1 (by rw [hfound]; rfl)
    have hle := UInt64.le_iff_toNat_le.1 (hs id hmem _ htext)
    simp only [UInt64.size] at hroom
    simp only [UInt64.toNat_add, UInt64.toNat_one] at hle
    omega

theorem Behind.step (hs : Behind e) (h : e.step config op = some (e', answer))
    (hop : Apart config e op) : Behind e' := by
  have hids := step_ids h
  obtain ⟨hforward, -⟩ := hids.counter hop.room
  have hcompose (counter : UInt64) :
      e'.ids.compose .policy counter = e.ids.compose .policy counter := by
    unfold IdFactory.compose
    rw [hids.idPrefix, hids.nonce]
  have hkept {counter : UInt64} (hle : counter ≤ e.ids.counter) : counter ≤ e'.ids.counter :=
    UInt64.le_iff_toNat_le.2 (Nat.le_trans (UInt64.le_iff_toNat_le.1 hle) hforward)
  intro policy hmem counter htext
  rw [hcompose] at htext
  cases hrecovers : op.recovers config.limits with
  | some durable =>
    obtain ⟨now, epoch, authority, -, -, rfl⟩ := step_recovered h hrecovers
    obtain ⟨record, hrecord⟩ := Option.isSome_iff_exists.1
      (Std.ExtTreeMap.isSome_getElem?_iff_mem.2 hmem)
    obtain ⟨source, hsource, hid, -, -⟩ :=
      recoveredState_from config now durable epoch authority policy record hrecord
    exact hop.recovered durable hrecovers source hsource counter (by rw [hid, htext])
  | none =>
    cases hcreates : op.creates with
    | false =>
      have hlabels := congrArg Option.isSome (step_labels h hcreates hrecovers policy)
      rw [Option.isSome_map, Option.isSome_map] at hlabels
      have hbefore : policy ∈ e.state.policies := Std.ExtTreeMap.isSome_getElem?_iff_mem.1
        (hlabels.symm.trans (Std.ExtTreeMap.isSome_getElem?_iff_mem.2 hmem))
      exact hkept (hs policy hbefore counter htext)
    | true =>
      cases op with
      | createPolicy now request =>
        obtain ⟨⟨e₁, result⟩, hcreate, he⟩ := Option.map_eq_some_iff.1 h
        cases he
        cases createPolicy_cases hcreate with
        | refused _ policies =>
          change policy ∈ e₁.state.policies at hmem
          rw [policies] at hmem
          exact hkept (hs policy hmem counter htext)
        | @created id mints _ _ _ policies =>
          change policy ∈ e₁.state.policies at hmem
          rw [policies, Std.ExtTreeMap.mem_insertIfNew] at hmem
          rcases hmem with hnew | hmem
          · obtain rfl : id = policy := Std.LawfulEqCmp.eq_of_compare hnew
            obtain ⟨hminted, hnext⟩ := IdFactory.mint_eq mints
            obtain rfl := IdFactory.compose_inj (htext.symm.trans hminted)
            exact UInt64.le_of_eq (congrArg IdFactory.counter hnext).symm
          · exact hkept (hs policy hmem counter htext)
      | _ => cases hcreates

end

/-- In a deployment that keeps minted identities apart the names index the policies, one to one, and a
creation takes an identity that was free and leaves under it the name, scope and semantics asked for. -/
theorem creation_is_fresh {config : EngineConfig} {e : Engine} (h : Hosted Apart config e) :
    Agreed e.state ∧ ∀ (now : Ticks) (request : CreatePolicyRequest) (e' : Engine)
      (result : OperationResult), Apart config e (.createPolicy now request) →
      e.step config (.createPolicy now request) = some (e', .result result) →
      result.outcome = .policyCreated →
      e.state.policies[result.policy]? = none ∧
        ∃ record, e'.state.policies[result.policy]? = some record ∧
          record.policy.id = result.policy ∧ record.policy.name = request.name ∧
          record.policy.scope = request.scope ∧ record.policy.semantics = request.semantics := by
  have hkeeps : Agreed e.state ∧ Behind e := by
    induction h with
    | start config nonce =>
      refine ⟨?_, fun policy hmem => ?_⟩
      · unfold Agreed State.record
        simpa [Engine.start] using Inverse.empty
      · simp [Engine.start] at hmem
    | step _ meets recovers steps ih =>
      refine ⟨ih.1.step steps recovers fun hcreates id ids hmint => ?_, ih.2.step steps meets⟩
      exact ih.2.fresh (meets.minted hcreates) hmint
    | recover _ written meets recovers steps ih ihw =>
      refine ⟨?_, ih.2.step steps meets⟩
      obtain ⟨now, epoch, authority, -, -, rfl⟩ := step_recovered steps recovers
      exact ihw.1.recovered written.keyed written.filed _ _ _ _ _
  refine ⟨hkeeps.1, fun now request e' result hop hstep hcreated => ?_⟩
  cases step_creates hstep with
  | refused outcome => exact absurd hcreated outcome
  | @created id mints _ _ reports policies =>
    have hfresh := hkeeps.2.fresh (hop.minted rfl) mints
    rw [reports]
    refine ⟨hfresh, e.state.newRecord now id request, ?_, rfl, rfl, rfl, rfl⟩
    show e'.state.policies[id]? = _
    rw [policies, insertIfNew_get hfresh]

/-! ## A store of a sibling engine -/

namespace Scenario

/-- The engine starts from the store of an engine of the same process that created the policy. -/
def inherited : List Op :=
  [.decodeStore 0 (.ok ((after created).state.buildDurable 0).stored) "store", register]

def another (epoch : UInt64) (attempt : String) : CreatePolicyRequest :=
  { create epoch with name := name "other", context := context epoch attempt }

theorem hosted_created {ok : EngineConfig → Engine → Op → Prop} (hregister : ok config engine register)
    (hcreate : ok config (after [register]) (.createPolicy 0 (create 1))) :
    Hosted ok config (after created) := by
  obtain ⟨_, h₁⟩ := step_after [] register (by decide +kernel)
  obtain ⟨_, h₂⟩ := step_after [register] (.createPolicy 0 (create 1)) (by decide +kernel)
  exact .step (.step (.start config "n") hregister rfl h₁) hcreate rfl h₂

end Scenario

open Scenario in
theorem another_creation_is_fresh : ∃ e' result,
    (after created).step config (.createPolicy 1 (another 1 "other")) = some (e', .result result) ∧
    result.outcome = .policyCreated ∧ (after created).state.policies[result.policy]? = none := by
  have hop {e : Engine} {op : Op} (hrecovers : op.recovers config.limits = none)
      (hroom : e.ids.counter.toNat + op.mints < UInt64.size) : Apart config e op :=
    { room := hroom
      recovered := fun durable h => by
        rw [hrecovers] at h
        cases h }
  obtain ⟨result, hstep, houtcome⟩ := step_result
    (by decide +kernel : returns (created ++ [.createPolicy 1 (another 1 "other")]) = true)
    (by decide +kernel : answers created (.createPolicy 1 (another 1 "other"))
      (fun answer => answer.outcome == some .policyCreated) = true)
  have hhosted : Hosted Apart config (after created) :=
    hosted_created (hop rfl (by decide +kernel)) (hop rfl (by decide +kernel))
  exact ⟨_, result, hstep, houtcome, ((creation_is_fresh hhosted).2 _ _ _ _
    (hop rfl (by decide +kernel)) hstep houtcome).1⟩

open Scenario in
/-- Two engines of one process mint the same identities: a creation after loading the other's store
reports a policy that was there, and leaves it as it was. -/
theorem inherited_identity_is_reused : ∃ e' result,
    Hosted (fun _ _ _ => True) config (after inherited) ∧
      (after inherited).step config (.createPolicy 1 (another 2 "create")) = some (e', .result result) ∧
      result.outcome = .policyCreated ∧
      (after inherited).state.policies.contains result.policy = true ∧
      (∃ record, e'.state.policies[result.policy]? = some record ∧ record.policy.name ≠ name "other") ∧
      ¬ Agreed e'.state := by
  obtain ⟨_, h₁⟩ := step_after []
    (.decodeStore 0 (.ok ((after created).state.buildDurable 0).stored) "store") (by decide +kernel)
  obtain ⟨_, h₂⟩ := step_after
    [.decodeStore 0 (.ok ((after created).state.buildDurable 0).stored) "store"] register
    (by decide +kernel)
  have hhosted : Hosted (fun _ _ _ => True) config (after inherited) :=
    .step (.recover (.start config "n") (hosted_created trivial trivial) trivial rfl h₁) trivial rfl h₂
  obtain ⟨result, hstep, houtcome⟩ := step_result
    (by decide +kernel : returns (inherited ++ [.createPolicy 1 (another 2 "create")]) = true)
    (by decide +kernel : answers inherited (.createPolicy 1 (another 2 "create"))
      (fun answer => answer.outcome == some .policyCreated) = true)
  refine ⟨_, result, hhosted, hstep, houtcome, ?_⟩
  cases step_creates hstep with
  | refused outcome => exact absurd houtcome outcome
  | @created id mints unnamed _ reports policies directory =>
    have hused : ((after inherited).ids.mint .policy).all
        (fun (entry : AdaptivePolicyId × IdFactory) =>
          ((after inherited).state.policies[entry.1]?).any fun record =>
            record.policy.name != name "other") = true := by decide +kernel
    rw [mints, Option.all_some] at hused
    obtain ⟨record, hrecord, hname⟩ := (Option.any_eq_true _ _).1 hused
    have hname : record.policy.name ≠ name "other" := by simpa using hname
    have hkept : (after (inherited ++ [.createPolicy 1 (another 2 "create")])).state.policies[id]? =
        some record := by
      rw [policies, get_insertIfNew hrecord]
    have hindex : (after (inherited ++ [.createPolicy 1 (another 2 "create")])).state.policyNames[
        (name "other" : AdaptivePolicyName)]? = some id := by
      have hnames : (after (inherited ++ [.createPolicy 1 (another 2 "create")])).state.policyNames =
          (after inherited).state.policyNames.insertIfNew (another 2 "create").name id :=
        congrArg Prod.fst directory
      rw [hnames]
      exact insertIfNew_get unnamed
    rw [reports]
    refine ⟨?_, ⟨record, hkept, hname⟩, fun hagreed => ?_⟩
    · rw [Std.ExtTreeMap.contains_eq_isSome_getElem?, hrecord]
      rfl
    · obtain ⟨found, hfound, hlabel⟩ := (hagreed _ _).1 hindex
      obtain rfl := Option.some.inj (hkept.symm.trans hfound)
      exact hname hlabel

end AdaptiveRouting
