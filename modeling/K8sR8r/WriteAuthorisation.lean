import K8sR8r.RetentionRuns

/-!
# No spoke is written without a policy

Whatever a reconcile starts from and however the transport fails, a replica is
applied only where one single policy of the list it read permits the source, a
Namespace is created only where such a policy allows that, and what is retained
is left alone.
-/

namespace K8sR8r

open Interaction

/-- The call has the policies behind it. -/
structure EngineCall.Authorised (sight : Sight) (src : PolicySource)
    (retained : List SlotKey) (call : EngineCall) : Prop where
  replica : ∀ slot, call.AppliesAt slot →
    ∃ policy ∈ sight.policies.items,
      policy.Permits src (sight.target slot.cluster slot.ns)
  /-- Whatever else is applied is a bare Namespace. -/
  other : ∀ cluster obj, call = .transportApply cluster obj →
    obj.labels.lookup labelSourceUID = none →
      ∃ ns, obj = namespacePayload ns ∧ ∃ policy ∈ sight.policies.items,
        policy.Permits src (sight.target cluster ns) ∧
          policy.options.allowNamespaceCreation = true
  retained : ∀ slot ∈ retained,
    ¬ call.AppliesAt slot ∧ ¬ call.DeletesAt slot

/-- What the reconcile of a live Replication retains. -/
def Sight.retainedBy (sight : Sight) (prev : Option PolicyResult) (rep : Replication) :
    List SlotKey :=
  if rep.deletionTimestamp.isSome then []
  else (sight.outcome prev rep rep.spec.sourceRef.name).retained

theorem Resembles.slots_eq {nn : NamespacedName} {rep now : Replication}
    (resembles : Resembles nn rep now) (sight : Sight) :
    sight.slots now now.spec.sourceRef.name = sight.slots rep rep.spec.sourceRef.name := by
  unfold Sight.slots Sight.result
  rw [resembles.spec]

theorem Resembles.outcome_eq {nn : NamespacedName} {rep now : Replication}
    (resembles : Resembles nn rep now) (sight : Sight) (prev : Option PolicyResult) :
    sight.outcome prev now now.spec.sourceRef.name =
      sight.outcome prev rep rep.spec.sourceRef.name := by
  unfold Sight.outcome Sight.result
  rw [resembles.spec, resembles.status]

section Authorised

variable {sight : Sight} {src : PolicySource} {retained : List SlotKey} {call : EngineCall}

theorem authorised_of_sparesSpokes (spares : call.SparesSpokes) :
    call.Authorised sight src retained := by
  cases call with
  | transportApply cluster obj => exact spares.elim
  | transportDelete cluster gvk key => exact spares.elim
  | _ =>
    exact ⟨fun _ h => h.elim, fun _ _ h => (nomatch h), fun _ _ => ⟨fun h => h, fun h => h⟩⟩

theorem authorised_of_deletesAt {slot : SlotKey} (deletes : call.DeletesAt slot)
    (hretained : slot ∉ retained) : call.Authorised sight src retained := by
  cases call with
  | transportDelete cluster gvk key =>
    refine ⟨fun _ h => h.elim, fun _ _ h => (nomatch h), ?_⟩
    intro other hother
    refine ⟨fun h => h, fun h => hretained ?_⟩
    have hsame : other = slot := h.symm.trans deletes
    rwa [← hsame]
  | _ => exact deletes.elim

variable {gvk : GroupVersionKind} {policies : List ReplicationPolicy}
  {slots : List (SlotInfo × Decision)}

theorem EngineCall.CarriesOut.unmarked {recorded : List InventoryEntry} {cluster : String}
    {obj : Unstructured}
    (carries : (EngineCall.transportApply cluster obj).CarriesOut gvk policies
      slots retained recorded) (hplain : obj.labels.lookup labelSourceUID = none) :
    ∃ slot ∈ slots,
      slot.2.allowed = true ∧
      slot.1.cluster = cluster ∧
      obj = namespacePayload slot.1.ns ∧
      (resolveOptions (policiesByName policies slot.2.matchedPolicies)).allowNamespaceCreation =
        true := by
  cases carries with
  | passive hpassive => exact hpassive.elim
  | @serves slot hmem hallowed hserves =>
    rcases hserves with (hpassive | happlies | hdeletes) | ⟨hcreation, hcluster, hobj⟩
    · exact hpassive.elim
    · have hmarked := happlies.2
      rw [hplain] at hmarked
      cases hmarked
    · exact hdeletes.elim
    · exact ⟨slot, hmem, hallowed, hcluster.symm, hobj, hcreation⟩
  | givesUp _ _ hgivesUp =>
    rcases hgivesUp with hcall | hdeletes
    · cases hcall
    · exact hdeletes.elim
  | records hrecords _ => exact hrecords.elim

theorem Sight.Decides.authorised {config : EngineConfig} {early : Fleet → Prop}
    {rep : Replication} {obj : Unstructured} {outcome : RevocationOutcome}
    (decides : sight.Decides config early rep obj gvk policies slots outcome)
    (carries : call.CarriesOut gvk policies slots outcome.retained rep.status.inventory) :
    call.Authorised sight (sight.source rep.spec.sourceRef)
      outcome.retained := by
  have hslots := decides.slots_eq
  have hdenied : ∀ slot ∈ outcome.retained, slot ∉ allowedKeys gvk slots := by
    intro slot hretained hkey
    obtain ⟨seen, _, rfl⟩ := decides.outcome_eq
    have hrevoked := (sight.not_permits_of_mem_retained rep _ hretained).2
    obtain ⟨served, hmem, hallowed, rfl⟩ :=
      (mem_allowedKeys_iff _ _ _).mp hkey
    rw [hslots] at hmem
    exact hrevoked (sight.permits_of_allowed rep _ hmem hallowed)
  refine ⟨?_, ?_, ?_⟩
  · intro slot happlies
    have hkey := carries.writes_cases.1 happlies
    obtain ⟨served, hmem, hallowed, rfl⟩ :=
      (mem_allowedKeys_iff _ _ _).mp hkey
    rw [hslots] at hmem
    exact sight.permits_of_allowed rep _ hmem hallowed
  · rintro cluster payload rfl hplain
    obtain ⟨served, hmem, hallowed, rfl, rfl, hcreation⟩ :=
      carries.unmarked hplain
    rw [hslots, sight.mem_slots_iff] at hmem
    obtain ⟨tgt, _, ns, _, rfl⟩ := hmem
    -- The options come from the policies that permit the target.
    rw [decides.policies_eq, resolveOptions_namespaceCreation_iff] at hcreation
    obtain ⟨policy, hpolicy, hcreation⟩ := hcreation
    have hpermits := (sight.policies.mem_policiesByName_matched_iff _ _ policy).mp hpolicy
    exact ⟨ns, rfl, policy, hpermits.1, hpermits.2, hcreation⟩
  · intro slot hretained
    refine ⟨fun h => hdenied slot hretained (carries.writes_cases.1 h), ?_⟩
    intro hdeletes
    rcases carries.writes_cases.2 hdeletes with hallowed | hunretained
    · exact hdenied slot hretained hallowed
    · exact hunretained hretained

end Authorised

open Sample

def Sample.appliedSlot : EngineCall → Option SlotKey
  | .transportApply cluster obj =>
    some (slotOf cluster obj.groupVersionKind obj.key)
  | _ => none

theorem Sample.appliedSlot_eq_some {call : EngineCall} {slot : SlotKey}
    (hslot : appliedSlot call = some slot) :
    ∃ cluster obj, call = .transportApply cluster obj ∧
      slotOf cluster obj.groupVersionKind obj.key = slot := by
  cases call with
  | transportApply cluster obj =>
    exact ⟨cluster, obj, rfl, Option.some.inj hslot⟩
  | _ => cases hslot

section Reconcile

variable {config : EngineConfig} {nn : NamespacedName} {sight : Sight}
  {rep : Replication} {fleet : Fleet}

theorem reconcile_authorised (shows : fleet.Shows sight rep.spec.sourceRef.ns)
    (key : rep.key = nn) (stored : fleet.hub.replications nn = some rep) :
    Safe soloSemantics (fun _ call => call.Authorised sight (sight.source rep.spec.sourceRef)
        (sight.retainedBy (fleet.lastResults rep.uid) rep))
      (reconcile config nn) (fun _ _ => True) fleet := by
  have hfree : Stable soloSemantics fun _ : Fleet => True :=
    fun _ _ => trivial
  have hprepares : Prepares soloSemantics (fun _ call => call.Authorised sight
      (sight.source rep.spec.sourceRef)
      (sight.retainedBy (fleet.lastResults rep.uid) rep))
      EngineCall.IsTransport sight rep.spec.sourceRef.ns
      (Standing nn sight rep fleet) (fun _ => True) nn
      (Resembles nn rep) :=
    Standing.prepares soloSemantics_solitary hfree
      (fun hpassive => authorised_of_sparesSpokes hpassive.sparesSpokes)
      (fun _ _ => authorised_of_sparesSpokes trivial)
      (fun _ _ _ => ⟨authorised_of_sparesSpokes trivial, trivial⟩)
  rw [reconcile_eq]
  refine Safe.seq (hprepares.prepare_safe config (Standing.refl shows key stored)) ?_
  intro prepared current hmeets
  cases prepared with
  | ended result => exact fun _ _ => trivial
  | deleting now =>
    obtain ⟨_, hresembles, hdeleted⟩ := hmeets
    rw [hresembles.deletionTimestamp] at hdeleted
    refine (Safe.of_within (reconcileDeletion_calls config nn now) hfree
      trivial ?_ fun _ _ _ => trivial).weaken fun _ _ _ => trivial
    rintro _ call (hspares | ⟨entry, _, hdeletes⟩) _
    · exact authorised_of_sparesSpokes hspares
    · refine authorised_of_deletesAt hdeletes ?_
      simp [Sight.retainedBy, hdeleted]
  | simple now reason message =>
    refine (Safe.of_within (finishSimple_calls now reason message minute)
      hfree trivial ?_ fun _ _ _ => trivial).weaken fun _ _ _ => trivial
    rintro _ call (hpassive | hrecords) _
    · exact authorised_of_sparesSpokes hpassive.sparesSpokes
    · exact authorised_of_sparesSpokes hrecords.calm.sparesSpokes
  | fanOut now src gvk policies slots outcome =>
    obtain ⟨_, hresembles, hdecides, _⟩ := hmeets
    have hretained : sight.retainedBy (fleet.lastResults rep.uid) rep ⊆
        outcome.retained := by
      obtain ⟨seen, hseen, rfl⟩ := hdecides.outcome_eq
      rw [hresembles.outcome_eq, hresembles.uid, hseen.memory]
      unfold Sight.retainedBy
      split_ifs
      · exact List.nil_subset _
      · exact List.Subset.refl _
    refine (Safe.of_within ((hdecides.signals.weaken
      (fun _ h => .passive h) fun _ h => h).bind fun _ _ =>
        hdecides.calls nn) hfree trivial ?_ fun _ _ _ => trivial).weaken fun _ _ _ => trivial
    intro _ call hcarries _
    have hauthorised := hdecides.authorised hcarries
    rw [hresembles.spec] at hauthorised
    exact ⟨hauthorised.replica, hauthorised.other, fun slot hmem =>
      hauthorised.retained slot (hretained hmem)⟩

/-- Every call of one reconcile of a Replication is authorised, in every spoke
state, after every evaluation and whichever transport calls fail. -/
theorem spoke_writes_authorised
    (shows : fleet.Shows sight rep.spec.sourceRef.ns)
    (key : rep.key = nn)
    (stored : fleet.hub.replications nn = some rep)
    {trace : List (Exchange Fleet EngineCall.Reply)} {final : Fleet}
    {rest : EngineProgram (ApiResult ReconcileOutcome)}
    (run : Run soloSemantics fleet (reconcile config nn) trace final rest) :
    ∀ exchange ∈ trace,
      exchange.request.Authorised sight (sight.source rep.spec.sourceRef)
        (sight.retainedBy (fleet.lastResults rep.uid) rep) :=
  ((reconcile_authorised shows key stored).run run).1

theorem spoke_writes_authorised_sample :
    (∃ exchange ∈
        (execute Fleet.handle (reconcile engine key)
          (Sample.fleet.withPolicies granting)).trace,
      ∃ cluster obj, exchange.request = .transportApply cluster obj) ∧
    ∀ exchange ∈
        (execute Fleet.handle (reconcile engine key)
          (Sample.fleet.withPolicies granting)).trace,
      exchange.request.Authorised (stake granting).sight
        ((stake granting).sight.source replication.spec.sourceRef)
        ((stake granting).sight.retainedBy none replication) := by
  have hkey : replication.key = key := rfl
  have hstored : (Sample.fleet.withPolicies granting).hub.replications key =
        some replication := rfl
  refine ⟨?_, spoke_writes_authorised (fleet_shows granting)
    hkey hstored (run_execute (execute_answered (fun world call =>
      Fleet.answers_handle _ world call) _ _))⟩
  have happlies : ∃ exchange ∈ (execute Fleet.handle (reconcile engine key)
      (Sample.fleet.withPolicies granting)).trace,
        appliedSlot exchange.request = some slot := by
    decide +kernel
  obtain ⟨exchange, hmem, hslot⟩ := happlies
  obtain ⟨cluster, obj, hcall, _⟩ := appliedSlot_eq_some hslot
  exact ⟨exchange, hmem, cluster, obj, hcall⟩

end Reconcile

end K8sR8r
