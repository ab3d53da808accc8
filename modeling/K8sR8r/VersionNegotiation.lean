import K8sR8r.KubernetesObjects

/-!
# Negotiating the Cluster version

The ClusterAPI provider asks the discovery API again until it can tell which
version of the Cluster resource to watch, or that there is none for it.
-/

namespace K8sR8r

/-- The answers one attempt gets: the API groups with their versions, each as
group version and version, and the resources of a group version. -/
structure DiscoveryApi where
  serverGroups : ApiResult (List (String × List (String × String)))
  serverResources : String → ApiResult (List String)

namespace DiscoveryApi

inductive NegotiationError where
  | noDiscoveryClient
  | unsupportedVersions (served : List String)
  | clusterResourceAbsent
  | api (err : ApiError)

def NegotiationError.isFatal : NegotiationError → Bool
  | .noDiscoveryClient | .unsupportedVersions _ => true
  | .clusterResourceAbsent | .api _ => false

def clusterGroup : String := "cluster.x-k8s.io"
def clusterResource : String := "clusters"
def supportedClusterVersions : List String := ["v1", "v1beta2", "v1beta1"]

def servesResource (api : DiscoveryApi) (groupVersion : String) : ApiResult Bool :=
  match api.serverResources groupVersion with
  | .error err => if err.isNotFound then .ok false else .error err
  | .ok resources => .ok (resources.contains clusterResource)

def advertised (groups : List (String × List (String × String))) : List (String × String) :=
  (groups.filter fun group => group.1 = clusterGroup).flatMap Prod.snd

/-- The loop over the advertised versions. -/
def served (api : DiscoveryApi) : List (String × String) → ApiResult (List String)
  | [] => .ok []
  | version :: rest =>
    (api.servesResource version.1).bind fun ok =>
      (api.served rest).map fun others => if ok then version.2 :: others else others

def servedVersions (api : DiscoveryApi) : ApiResult (List String) :=
  api.serverGroups.bind fun groups => api.served (advertised groups)

def resolveClusterGVR : Option DiscoveryApi → Except NegotiationError String
  | none => .error .noDiscoveryClient
  | some api =>
    match api.servedVersions with
    | .error err => .error (.api err)
    | .ok served =>
      match supportedClusterVersions.find? served.contains with
      | some want => .ok want
      | none =>
        .error (if served = [] then .clusterResourceAbsent else .unsupportedVersions served)

/-- `negotiate`, over the attempts there are until the context ends. -/
def negotiate : List (Option DiscoveryApi) → Except NegotiationError (Option String)
  | [] => .ok none
  | attempt :: rest =>
    match resolveClusterGVR attempt with
    | .ok version => .ok (some version)
    | .error err => if err.isFatal then .error err else negotiate rest

/-! ## What it settles on -/

/-- No read fails, and these versions have the Cluster resource. -/
structure Reads (api : DiscoveryApi) (versions : List (String × String)) (served : List String) :
    Prop where
  answered : ∀ version ∈ versions, ∀ err, api.servesResource version.1 ≠ .error err
  listed : ∀ version, version ∈ served ↔ ∃ groupVersion, (groupVersion, version) ∈ versions ∧
    api.servesResource groupVersion = .ok true

def Tells (api : DiscoveryApi) (served : List String) : Prop :=
  ∃ groups, api.serverGroups = .ok groups ∧ api.Reads (advertised groups) served

inductive Negotiated :
    List (Option DiscoveryApi) → Except NegotiationError (Option String) → Prop where
  | stopped : Negotiated [] (.ok none)
  | unwired {rest} : Negotiated (none :: rest) (.error .noDiscoveryClient)
  | settled {api served version better worse rest} (tells : Tells api served)
      (supported : supportedClusterVersions = better ++ version :: worse)
      (serves : version ∈ served) (preferred : ∀ other ∈ better, other ∉ served) :
      Negotiated (some api :: rest) (.ok (some version))
  | refused {api served rest} (tells : Tells api served) (serves : served ≠ [])
      (unsupported : ∀ version ∈ supportedClusterVersions, version ∉ served) :
      Negotiated (some api :: rest) (.error (.unsupportedVersions served))
  | retried {api rest result} (untold : ∀ served, Tells api served → served = [])
      (tail : Negotiated rest result) : Negotiated (some api :: rest) result

theorem served_cases (api : DiscoveryApi) (versions : List (String × String)) :
    (∃ served, api.served versions = .ok served ∧ api.Reads versions served) ∨
    ∃ err, api.served versions = .error err ∧
      ∃ version ∈ versions, api.servesResource version.1 = .error err := by
  induction versions with
  | nil => exact .inl ⟨[], rfl, by simp, by simp⟩
  | cons head rest ih =>
    cases hhead : api.servesResource head.1 with
    | error err => exact .inr ⟨err, by rw [served, hhead]; rfl, head, by simp, hhead⟩
    | ok ok =>
      rcases ih with ⟨others, hothers, hrest⟩ | ⟨err, herr, version, hmem, hversion⟩
      · refine .inl ⟨if ok then head.2 :: others else others, ?_, ?_, ?_⟩
        · rw [served, hhead, hothers]
          rfl
        · exact List.forall_mem_cons.mpr ⟨by simp [hhead], hrest.answered⟩
        · intro version
          have hlisted := hrest.listed version
          obtain ⟨groupVersion, own⟩ := head
          cases ok <;> simp_all [or_and_right, exists_or]
      · exact .inr ⟨err, by rw [served, hhead, herr]; rfl, version, by simp [hmem], hversion⟩

theorem servedVersions_cases (api : DiscoveryApi) :
    (∃ served, api.servedVersions = .ok served ∧ Tells api served) ∨
      ∃ err, api.servedVersions = .error err ∧ ∀ served, ¬ Tells api served := by
  unfold servedVersions Tells
  cases api.serverGroups with
  | error err => exact .inr ⟨err, rfl, by simp⟩
  | ok groups =>
    rcases served_cases api (advertised groups) with
      ⟨served, hserved, reads⟩ | ⟨err, herr, version, hmem, hversion⟩
    · exact .inl ⟨served, hserved, groups, rfl, reads⟩
    · refine .inr ⟨err, herr, ?_⟩
      rintro served ⟨_, ⟨⟩, reads⟩
      exact reads.answered version hmem err hversion

theorem Tells.nil {api : DiscoveryApi} (tells : Tells api []) {served : List String}
    (other : Tells api served) : served = [] := by
  obtain ⟨groups, hgroups, reads⟩ := tells
  obtain ⟨_, hother, others⟩ := other
  cases hgroups.symm.trans hother
  simpa [← reads.listed, List.eq_nil_iff_forall_not_mem] using others.listed

/-- The provider watches the most preferred version that the hub serves, gives
up only on a hub that serves none it knows, and otherwise asks again. -/
theorem negotiate_negotiated (attempts : List (Option DiscoveryApi)) :
    Negotiated attempts (negotiate attempts) := by
  induction attempts with
  | nil => exact .stopped
  | cons attempt rest ih =>
    cases attempt with
    | none => exact .unwired
    | some api =>
      rcases servedVersions_cases api with ⟨served, hserved, tells⟩ | ⟨err, herr, untold⟩
      · cases hfind : supportedClusterVersions.find? served.contains with
        | some version =>
          obtain ⟨hserves, better, worse, hsupported, hbetter⟩ :=
            List.find?_eq_some_iff_append.mp hfind
          simp only [negotiate, resolveClusterGVR, hserved, hfind]
          exact .settled tells hsupported (by simpa using hserves) (by simpa using hbetter)
        | none =>
          simp only [negotiate, resolveClusterGVR, hserved, hfind]
          by_cases hempty : served = []
          · rw [if_pos hempty]
            exact .retried (fun _ => (hempty ▸ tells).nil) ih
          · rw [if_neg hempty]
            exact .refused tells hempty (by simpa using List.find?_eq_none.mp hfind)
      · simp only [negotiate, resolveClusterGVR, herr]
        exact .retried (fun served tells => (untold served tells).elim) ih

end DiscoveryApi

end K8sR8r
