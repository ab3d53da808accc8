import K8sR8r.EngineReconciler
import K8sR8r.FleetSimulation
import K8sR8r.RequestController

/-!
# The controllers of one operator process

The engine, the request controller and the authority controller act on the same
fleet.  Each is a role of a system; what a role may be in the middle of is one
reconcile.
-/

namespace K8sR8r

open Interaction

inductive Controller where
  | engine
  | request
  | authority
  deriving DecidableEq

namespace Controller

@[reducible] def Call : Controller → Type
  | engine => EngineCall
  | request => RequestCall
  | authority => AuthorityCall

@[reducible] def Reply : (role : Controller) → role.Call → Type
  | engine => EngineCall.Reply
  | request => RequestCall.Reply
  | authority => AuthorityCall.Reply

@[reducible] def Outcome : Controller → Type
  | engine => ApiResult ReconcileOutcome
  | request => ApiResult Unit
  | authority => ApiResult Unit

end Controller

abbrev PlaneState :=
  Configuration Fleet Controller.Reply Controller.Outcome

/-! ## Answers -/

namespace Fleet

def AnswersRequest (fails : RequestCall → Prop) (fleet : Fleet) :
    (call : RequestCall) → call.Reply → Fleet → Prop
  | .hub call, reply, after =>
    ∃ hub, fleet.hub.Answers (fails (.hub call)) call reply hub ∧ after = { fleet with hub := hub }
  | .listClusters, snapshot, after =>
    fleet.records.Lists snapshot ∧ after = fleet
  | .now, _, after => after = fleet
  | .emit _, _, after => after = fleet

def AnswersAuthority (fails : AuthorityCall → Prop) (fleet : Fleet) :
    (call : AuthorityCall) → call.Reply → Fleet → Prop
  | .hub call, reply, after =>
    ∃ hub, fleet.hub.Answers (fails (.hub call)) call reply hub ∧ after = { fleet with hub := hub }
  | .now, _, after => after = fleet

@[reducible] def AnswersRole (fleet : Fleet) :
    (role : Controller) → (call : role.Call) → role.Reply call → Fleet → Prop
  | .engine, call, reply, after =>
    fleet.Answers (fun _ => True) call reply after
  | .request, call, reply, after =>
    fleet.AnswersRequest (fun _ => True) call reply after
  | .authority, call, reply, after =>
    fleet.AnswersAuthority (fun _ => True) call reply after

variable {fleet after : Fleet}

theorem Answers.hub_change {fails : EngineCall → Prop} {call : EngineCall} {reply : call.Reply}
    (answer : fleet.Answers fails call reply after) :
    after.hub = fleet.hub ∨ ∃ call reply allowed,
      fleet.hub.Answers allowed call reply after.hub := by
  cases Fleet.answers_effect answer with
  | hub hanswer => exact .inr ⟨_, _, _, hanswer⟩
  | _ => exact .inl rfl

theorem AnswersRequest.hub_only {fails : RequestCall → Prop} {call : RequestCall}
    {reply : call.Reply} (answer : fleet.AnswersRequest fails call reply after) :
    after = { fleet with hub := after.hub } ∧
      (after.hub = fleet.hub ∨ ∃ call reply allowed,
        fleet.hub.Answers allowed call reply after.hub) := by
  cases call with
  | hub call =>
    obtain ⟨hub, hanswer, rfl⟩ := answer
    exact ⟨rfl, .inr ⟨call, reply, _, hanswer⟩⟩
  | listClusters =>
    rw [answer.2]
    exact ⟨rfl, .inl rfl⟩
  | now =>
    rw [answer]
    exact ⟨rfl, .inl rfl⟩
  | emit event =>
    rw [answer]
    exact ⟨rfl, .inl rfl⟩

theorem AnswersAuthority.hub_only {fails : AuthorityCall → Prop} {call : AuthorityCall}
    {reply : call.Reply} (answer : fleet.AnswersAuthority fails call reply after) :
    after = { fleet with hub := after.hub } ∧
      (after.hub = fleet.hub ∨ ∃ call reply allowed,
        fleet.hub.Answers allowed call reply after.hub) := by
  cases call with
  | hub call =>
    obtain ⟨hub, hanswer, rfl⟩ := answer
    exact ⟨rfl, .inr ⟨call, reply, _, hanswer⟩⟩
  | now =>
    rw [answer]
    exact ⟨rfl, .inl rfl⟩

theorem AnswersRole.hub_change {role : Controller} {call : role.Call} {reply : role.Reply call}
    (answer : fleet.AnswersRole role call reply after) :
    after.hub = fleet.hub ∨ ∃ call reply allowed,
      fleet.hub.Answers allowed call reply after.hub := by
  cases role with
  | engine => exact Answers.hub_change answer
  | request => exact (AnswersRequest.hub_only answer).2
  | authority => exact (AnswersAuthority.hub_only answer).2

theorem AnswersRole.consistent {role : Controller} {call : role.Call} {reply : role.Reply call}
    (consistent : fleet.hub.Consistent) (answer : fleet.AnswersRole role call reply after) :
    fleet.hub.Newer after.hub ∧ after.hub.Consistent := by
  rcases answer.hub_change with hsame | ⟨_, _, _, hanswer⟩
  · rw [hsame]
    exact ⟨.refl _, consistent⟩
  · exact ⟨consistent.newer_of_answers hanswer, consistent.answers hanswer⟩

end Fleet

/-! ## Deterministic answers -/

def ClusterRecords.listRecords (records : ClusterRecords) : List ClusterRecord :=
  records.sortedKeys.filterMap records.lookup

theorem ClusterRecords.lists_listRecords (records : ClusterRecords) :
    records.Lists records.listRecords := by
  obtain ⟨entries, hkeys⟩ := records
  induction entries using Quotient.inductionOn with
  | h entries =>
    have hnodup : entries.NodupKeys := hkeys
    have hvalues : ∀ sub : List (Sigma fun _ : String => ClusterRecord), sub ⊆ entries →
        (sub.map Sigma.fst).filterMap (fun key => entries.dlookup key) =
          sub.map fun entry => entry.2 := by
      intro sub hsub
      induction sub with
      | nil => rfl
      | cons head rest ih =>
        have hhead : entries.dlookup head.1 = some head.2 :=
          (List.mem_dlookup_iff hnodup).mpr (hsub List.mem_cons_self)
        have hrest := ih fun entry hmem =>
          hsub (List.mem_cons_of_mem _ hmem)
        rw [List.map_cons, List.filterMap_cons, hhead, hrest]
        rfl
    have hsorted : ((entries.map Sigma.fst).insertionSort (· ≤ ·)).Perm (entries.map Sigma.fst) :=
      List.perm_insertionSort _ _
    have hperm := hsorted.filterMap fun key => entries.dlookup key
    rw [hvalues entries (List.Subset.refl entries)] at hperm
    exact Multiset.coe_eq_coe.mpr hperm

namespace Fleet

def handleRequest (fleet : Fleet) : (call : RequestCall) → call.Reply × Fleet
  | .hub call =>
    let answer := fleet.hub.handle call
    (answer.1, { fleet with hub := answer.2 })
  | .listClusters => (fleet.records.listRecords, fleet)
  | .now => (fleet.hub.clock, fleet)
  | .emit _ => ((), fleet)

def handleAuthority (fleet : Fleet) : (call : AuthorityCall) → call.Reply × Fleet
  | .hub call =>
    let answer := fleet.hub.handle call
    (answer.1, { fleet with hub := answer.2 })
  | .now => (fleet.hub.clock, fleet)

def handleRole (fleet : Fleet) : (role : Controller) → (call : role.Call) → role.Reply call × Fleet
  | .engine, call => fleet.handle call
  | .request, call => fleet.handleRequest call
  | .authority, call => fleet.handleAuthority call

theorem answersRequest_handleRequest (fails : RequestCall → Prop) (fleet : Fleet)
    (call : RequestCall) :
    fleet.AnswersRequest fails call (fleet.handleRequest call).1 (fleet.handleRequest call).2 := by
  cases call with
  | hub call => exact ⟨_, Hub.answers_handle _ _ _, rfl⟩
  | listClusters => exact ⟨ClusterRecords.lists_listRecords _, rfl⟩
  | now => rfl
  | emit event => rfl

theorem answersRole_handleRole (fleet : Fleet) (role : Controller) (call : role.Call) :
    fleet.AnswersRole role call (fleet.handleRole role call).1 (fleet.handleRole role call).2 := by
  cases role with
  | engine => exact Fleet.answers_handle (fun _ => True) fleet call
  | request => exact answersRequest_handleRequest (fun _ => True) fleet call
  | authority =>
    cases call with
    | hub call => exact ⟨_, Hub.answers_handle _ _ _, rfl⟩
    | now => rfl

theorem execute_consistent {α : Type} (program : EngineProgram α) {fleet : Fleet}
    (consistent : fleet.hub.Consistent) :
    (execute Fleet.handle program fleet).final.hub.Consistent := by
  have hpreserved : ∀ (world : Fleet) (call : EngineCall),
      world.hub.Consistent → (world.handle call).2.hub.Consistent := by
    intro world call hworld
    have hanswer := answersRole_handleRole world .engine call
    exact (hanswer.consistent hworld).2
  exact execute_invariant hpreserved program consistent

end Fleet

def Sample.request : RequestConfig where
  gvk := configMapGVK
  enabled := true
  enabledKinds := "ConfigMap"
  library :=
    { parseSelector := fun text =>
        if text = "env=prod" then
          .ok (.requirements [⟨"env", .equals, ["prod"]⟩])
        else .error "unexpected selector"
      labelProblems := fun _ => ""
      subdomainProblems := fun _ => "" }
  digest := fun _ => "5f2c9a01"

end K8sR8r
